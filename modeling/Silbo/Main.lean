import Silbo.Command

/-! The program: the command, on the files of the system that it runs on. -/
namespace Silbo

def Origin.name : Origin → String
  | model => "model"
  | selection => "selection"
  | expansion => "expansion"
  | compilation => "compilation"
  | wave => "wave"
  | command => "command"

def Event.line (e : Event) : String := e.severity.name ++ " " ++ e.origin.name ++ ": " ++ e.text

def usageText : String :=
  "usage: silbo [-h] [--sample-rate SAMPLERATE] [--workers WORKERS] [--skip-errors] [-v] text outPath"

/-- Lets the system do something; whatever goes wrong is a refusal. -/
def Storage.attempt (action : IO Unit) : ExceptT Refusal IO Unit :=
  ExceptT.mk do
    try
      action
      pure (.ok ())
    catch e => pure (.error (.system 0 (toString e) none))

def Storage.real : Storage IO where
  makeFolders path := attempt (IO.FS.createDirAll path)
  create path := attempt (IO.FS.writeBinFile path .empty)
  append path bytes := attempt do
    let handle ← IO.FS.Handle.mk path .append
    handle.write (ByteArray.mk bytes.toArray)

end Silbo

open Silbo in
def main (arguments : List String) : IO UInt32 := do
  let folder ← IO.currentDir
  let (outcome, events) ← Command.execute Storage.real .inOrder folder.toString arguments
  for e in events do IO.eprintln e.line
  match outcome with
  | .usage u =>
    IO.eprintln usageText
    return UInt32.ofNat (Command.usageCode u)
  | .fault f =>
    IO.eprintln ((f.message?).getD "the request cannot be carried out")
    return 1
  | .exit code _ => return UInt32.ofNat code
