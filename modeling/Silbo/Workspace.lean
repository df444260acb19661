import Silbo.Fault
import Silbo.Journal

/-!
The state that requests to one model share: the classes resolved so far, and the journal. Both
stay as they are when a request fails.
-/
namespace Silbo

structure Workspace where
  resolved : List (Handle × List Handle) := []
  journal : List Event := []

abbrev Work (ε : Type) := ExceptT ε (StateM Workspace)

namespace Work

/-- Adds to the journal; the last event comes first. -/
def report (e : Event) : Work ε Unit := modify fun w => { w with journal := e :: w.journal }

def remembered? (h : Handle) : Work ε (Option (List Handle)) := do
  return (← get).resolved.lookup h

def remember (h : Handle) (symbols : List Handle) : Work ε Unit :=
  modify fun w => { w with resolved := (h, symbols) :: w.resolved }

def ofExcept : Except ε α → Work ε α := MonadExcept.ofExcept

def orFault (work : Work Error α) : Work Fault α := work.adapt Fault.error

end Work

end Silbo
