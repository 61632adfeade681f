/-
# Main -- the calibration gate on the command line

Reads the corpus directory, runs the gate with the shipped detectors, writes the two reports and prints
what the gate prints.  A corpus that cannot be read is an error with status 1.
-/
import Deliberation.Calibration.Gate

set_option autoImplicit false

namespace Deliberation

/-- What stands in a directory under the names of corpus files; none where there is no directory. -/
def readDirectory (directory : String) : IO (Option (List (String × Directory.Entry))) := do
  let place := (← IO.currentDir) / directory
  if !(← place.pathExists) then return none
  if !(← place.isDir) then return some []
  let mut entries := #[]
  for entry in ← place.readDir do
    if Corpus.isCorpusName entry.fileName then
      if ← entry.path.isDir then entries := entries.push (entry.fileName, .directory)
      else entries := entries.push (entry.fileName, .file (← IO.FS.readFile entry.path))
  return some entries.toList

/-- The file written, with the directories above it. -/
def writeReport (path content : String) : IO Unit := do
  let place := (← IO.currentDir) / path
  if let some directory := place.parent then IO.FS.createDirAll directory
  IO.FS.writeFile place content

end Deliberation

open Deliberation in
def main (arguments : List String) : IO UInt32 := do
  match GateOptions.ofArguments arguments with
  | .error .help =>
    IO.print GateOptions.usage
    return 0
  | .error .misuse =>
    IO.eprint GateOptions.usage
    return 2
  | .ok options =>
    let corpus ← readDirectory (Directory.plain (options.corpusDirectory.getD ""))
    match options.run Panel.shipped corpus fun _ => .ok () with
    | .error fault =>
      IO.eprintln fault.message
      return 1
    | .ok outcome =>
      for (path, content) in outcome.files do
        writeReport path content
      IO.print outcome.output
      return UInt32.ofNat outcome.status
