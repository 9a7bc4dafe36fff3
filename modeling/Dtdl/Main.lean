import Dtdl.CommandLine

/-!
# The program

Hands the arguments and the file system to the command line and passes its answer on.
-/

namespace Dtdl

/-- What stands at a path of the file system. -/
def lookUp (path : Path) : IO (Option Files.Kind) := do
  if path.text.isEmpty then return none
  try
    let real ← IO.FS.realPath path.text
    match (← real.metadata).type with
    | .dir => return some .directory
    | .file => return some .file
    | _ => return some .other
  catch _ => return none

def diskFiles : Files IO where
  kind? := lookUp
  names path := do
    try
      let real ← IO.FS.realPath path.text
      return .ok ((← real.readDir).toList.map (·.fileName))
    catch problem => return .error (.other (toString problem))
  content path := do
    match ← lookUp path with
    | none => return .error .missing
    | some .directory => return .error .isDirectory
    | some _ =>
        try return .ok (← IO.FS.readBinFile path.text)
        catch problem => return .error (.other (toString problem))

end Dtdl

def main (words : List String) : IO UInt32 := do
  let answer ← Dtdl.CommandLine.run Dtdl.diskFiles words
  (← IO.getStdout).putStr answer.output
  (← IO.getStderr).putStr answer.errors
  return UInt32.ofNat answer.exitCode
