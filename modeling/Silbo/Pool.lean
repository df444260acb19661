import Silbo.Workspace

/-!
Tasks that are carried out one after the other, or on a pool of threads. The threads of a pool get
to their tasks in an order that nobody knows beforehand; the results stand in the order of the tasks.
-/
namespace Silbo

/-- An order in which so many tasks are carried out, by their indices. Each of them is carried out
once. -/
structure Schedule where
  order : Nat → List Nat
  perm : ∀ n, (order n).Perm (List.range n)

def Schedule.inOrder : Schedule := ⟨List.range, fun _ => .refl _⟩

structure Pool where
  workers : Option Int
  schedule : Schedule

namespace Pool

def serial : Pool := ⟨none, .inOrder⟩

/-- One worker gains nothing, and neither does a single task. -/
def isParallel (p : Pool) (tasks : Nat) : Bool := p.workers.any (1 < ·) && 1 < tasks

end Pool

namespace Work

def capture (work : Work ε α) : Work ε (Except ε α) :=
  tryCatch (Except.ok <$> work) fun e => pure (.error e)

/-- Carries out tasks in some order. The first failure among the tasks, in their own order, is the
failure of them all; the others are carried out all the same. -/
def scatter (order : List Nat) (f : α → Work ε β) (tasks : List α) : Work ε (List β) := do
  let done ← (order.filterMap fun i => tasks.zipIdx[i]?).mapM fun (task, i) => do
    pure (← capture (f task), i)
  ofExcept ((done.mergeSort fun x y => decide (x.2 ≤ y.2)).mapM (·.1))

end Work

/-- Carries out tasks on a pool, if there is more than one worker and more than one task. -/
def Pool.mapM (p : Pool) (f : α → Work ε β) (tasks : List α) : Work ε (List β) :=
  if p.isParallel tasks.length then Work.scatter (p.schedule.order tasks.length) f tasks
  else tasks.mapM f

end Silbo
