import Silbo.Disk
import Silbo.Workspace

/-! Work that asks a system to keep files. -/
namespace Silbo

abbrev Task (n : Type → Type) := ExceptT Fault (StateT Workspace n)

namespace Task

def ofWork [Monad n] (work : Work Fault α) : Task n α :=
  ExceptT.mk fun w => pure (work.run.run w)

/-- Asks a system; its refusal is a fault. -/
def ask [Monad n] (request : ExceptT Refusal n α) : Task n α :=
  ExceptT.mk fun w => do
    let answer ← request.run
    pure (answer.mapError Fault.refused, w)

/-- Lets a disk answer, and forgets what becomes of it. -/
def onDisk (d : Disk) (task : Task (StateM Disk) α) : Work Fault α :=
  ExceptT.mk fun w => pure ((task.run.run w).run d).run.1

end Task

end Silbo
