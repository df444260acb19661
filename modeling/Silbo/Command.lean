import Silbo.Catalogue
import Silbo.CommandLine
import Silbo.Wave

/-! What the command does with its arguments: compile, render, and leave one file behind. -/
namespace Silbo.Command

/-- How a command ends: with advice on its usage, with a fault, or with an exit code. -/
inductive Outcome where
  | usage (u : CommandLine.Usage)
  | fault (f : Fault)
  | exit (code : Nat) (output : Option Recording)

def usageCode : CommandLine.Usage → Nat
  | .help => 0
  | .misuse => 2

def threshold (verbosity : Nat) : Severity :=
  match verbosity with
  | 0 => .warning
  | 1 => .info
  | _ => .debug

def shown (least : Severity) (journal : List Event) : List Event :=
  (journal.filter fun e => least.rank ≤ e.severity.rank).reverse

/-- What an option says; a blank one is found out when it is needed. -/
def needed (value : Option α) : Work Fault α := Work.ofExcept (value.elim (.error .wrongType) .ok)

structure Draft where
  samples : Samples
  rate : Number
  path : String

/-- Renders the text with the built-in whistle, its words compiled in some order if there is more than
one worker. -/
def prepare (schedule : Schedule) (o : CommandLine.Options) : Work Fault Draft := do
  let m ← buildModel Whistle.table
  let workers ← needed o.workers
  let words ← m.compileTextOn ⟨workers, schedule⟩ {} (!o.skipErrors) o.text
  let s : Settings := { sampleRate := .int (← needed o.sampleRate) }
  let samples ← Work.ofExcept (renderWords s.sampleRate s.wordGapMilliseconds s.peak words)
  pure ⟨samples, s.sampleRate, ← needed o.path⟩

/-- Makes the file, which the system that keeps it is asked for when all samples are there. -/
def render [Monad n] (t : Storage n) (schedule : Schedule) (folder : String)
    (o : CommandLine.Options) : Task n Recording := do
  let draft ← Task.ofWork (prepare schedule o)
  let output ← saveWave t draft.rate folder draft.path draft.samples
  Task.ofWork (Work.report (.finished output.path))
  pure output

/-- How a command ends that had something to do, and what it shows. -/
def conclude (verbosity : Nat) (journal : List Event) :
    Except Fault Recording → Outcome × List Event
  | .ok output => (.exit 0 (some output), shown (threshold verbosity) journal)
  | .error (.error e) => (.exit 1 none, shown (threshold verbosity) (.failed e :: journal))
  | .error f => (.fault f, shown (threshold verbosity) journal)

/-- Carries out a command in a folder of a system that keeps files. -/
def execute [Monad n] (t : Storage n) (schedule : Schedule) (folder : String)
    (arguments : List String) : n (Outcome × List Event) :=
  match CommandLine.parse arguments with
  | .error u => pure (.usage u, [])
  | .ok o => do
    let (result, w) ← (render t schedule folder o).run.run {}
    pure (conclude o.verbosity w.journal result)

/-- Carries out a command on a disk with nothing but the folder. -/
def run (folder : String) (arguments : List String) : Outcome × List Event :=
  let place := Disk.placeOf folder
  ((execute (Disk.storage place) .inOrder folder arguments).run (.blank place)).run.1

end Silbo.Command
