import ScriptLint.Batch.Report
import ScriptLint.Fault.Message

/-!
# The command line

Reads the files that a command asks for from disk and prints what the scan of them comes to. What is
read is made a `Tree` first, so that everything else is decided by `Batch`.
-/

namespace ScriptLint

/-- The tree at a place on disk. Links to directories are not followed, and of the files below a
directory only source files are read. -/
partial def readTree (place : String) : IO (Option Tree) := do
  match ← (IO.FS.realPath place).toBaseIO with
  | .error _ => return none
  | .ok here =>
    if ← here.isDir then
      let mut children : List (String × Tree) := []
      for entry in ← here.readDir do
        let isDirectory := (← entry.path.symlinkMetadata).type == .dir
        let isLink := !isDirectory && (← entry.path.isDir)
        if isDirectory || (Path.isSourceName entry.fileName && !isLink) then
          if let some child ← readTree (toString entry.path) then
            children := (entry.fileName, child) :: children
      return some (.directory children)
    else return some (.file (← IO.FS.readBinFile here).toList)

/-- The fault of a place that a system refuses to look up because of its length. -/
def lengthFault? (place : String) : IO (Option Fault) := do
  match ← (IO.FS.Handle.mk place .read).toBaseIO with
  | .error (.invalidArgument _ 36 _) => return some (.nameTooLong place)
  | _ => return none

/-- What a place on disk leads to. -/
def locate (place : String) : IO (Except Fault (Option Tree)) := do
  match ← readTree place with
  | some tree => return .ok (some tree)
  | none =>
    match ← lengthFault? place with
    | some fault => return .error fault
    | none => return .ok none

/-- The tree that a command asks for. -/
def treeFor : Command → IO (Except Fault (Option Tree))
  | .scan arguments => locate (Path.ofString arguments.path).display
  | _ => pure (.ok none)

end ScriptLint

open ScriptLint in
/-- Runs a batch scan. -/
def main (arguments : List String) : IO UInt32 := do
  let command := Command.ofArguments arguments
  if command == .refuse then IO.eprintln Batch.usage
  let found ← treeFor command
  let report := Batch.run command fun _ => found
  for record in report.log do IO.eprintln record.render
  IO.print report.output
  match report.outcome with
  | .ok (.code n) => return UInt32.ofNat n
  | .ok (.message text) =>
    IO.eprintln text
    return 1
  | .error fault =>
    IO.eprintln fault.message
    return 1
