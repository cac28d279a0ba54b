import Viewfinder.CommandLine.Run

/-!
# The program

Runs the command line in the directory and with the environment that it finds.
-/

namespace Viewfinder.Main

/-- The pieces of some bytes between zeros. -/
def pieces (bytes : List UInt8) : List (List UInt8) := bytes.splitOn 0

def binding? (bytes : List UInt8) : Option (String × String) := do
  let s ← String.fromUTF8? ⟨bytes.toArray⟩
  let name := s.toList.takeWhile (· ≠ '=')
  return (String.ofList name, String.ofList (s.toList.drop (name.length + 1)))

/-- All variables of the environment. -/
def environment : IO (List (String × String)) := do
  try
    let bytes ← IO.FS.readBinFile "/proc/self/environ"
    return (pieces bytes.data.toList).filterMap binding?
  catch _ => return []

def readText (path : String) : IO (Option String) := do
  try return some (← IO.FS.readFile path)
  catch _ => return none

def failureOf : IO.Error → WriteFailure
  | .noFileOrDirectory .. => .noDirectory
  | .inappropriateType _ 20 _ => .notDirectory
  | .inappropriateType _ 21 _ => .isDirectory
  | .permissionDenied .. => .denied
  | e => .other (toString e)

def writeBytes (path : String) (bytes : Array UInt8) : IO (Option WriteFailure) := do
  try
    IO.FS.writeBinFile path ⟨bytes⟩
    return none
  catch e => return some (failureOf e)

def perform {α : Type} : Program α → IO α
  | .done a => return a
  | .read path next => do perform (next (← readText path))
  | .write path bytes next => do perform (next (← writeBytes path bytes))

end Viewfinder.Main

open Viewfinder in
def main (words : List String) : IO UInt32 := do
  let report ← Main.perform (CommandLine.run words (← Main.environment))
  IO.print report.output
  IO.eprint report.errors
  return report.exitCode.toUInt32
