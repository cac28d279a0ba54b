import Viewfinder.Files.Path
import Viewfinder.Files.Program

/-!
# Folders

A working directory that holds files and no directories, and the run of a program in it. Files of
the directories above are told by the two dots of their paths.
-/

namespace Viewfinder

structure Folder where
  files : List (String × Array UInt8) := []
deriving Repr

namespace Folder

def find? (f : Folder) (path : String) : Option (Array UInt8) :=
  if Path.namesDirectory path then none
  else (f.files.find? (·.1 = Path.clean path)).map (·.2)

def text? (f : Folder) (path : String) : Option String :=
  (f.find? path).bind fun bytes => String.fromUTF8? ⟨bytes⟩

/-- Put a file in place of one of the same name. -/
def put (f : Folder) (name : String) (bytes : Array UInt8) : Folder :=
  ⟨f.files.filter (·.1 ≠ name) ++ [(name, bytes)]⟩

def putText (f : Folder) (name : String) (text : String) : Folder :=
  f.put (Path.clean name) text.toUTF8.data

/-- Why the directories of a relative path cannot be entered, if they cannot: there are none but
those above. -/
def refusal? (f : Folder) (directories : List String) : Option WriteFailure :=
  match directories.dropWhile (· = "..") with
  | [] => none
  | first :: _ =>
    let above := directories.takeWhile (· = "..")
    if (f.find? ("/".intercalate (above ++ [first]))).isSome then some .notDirectory
    else some .noDirectory

/-- Write a file, if its path leads to no other directory than those above. -/
def write (f : Folder) (path : String) (bytes : Array UInt8) : Option WriteFailure × Folder :=
  let names := Path.names path
  let last := ((path.splitOn "/").getLast?).getD ""
  let directories := if last = "." ∨ last = ".." then names else names.dropLast
  if path.startsWith "/" then (some .noDirectory, f)
  else
    match f.refusal? directories with
    | some failure => (some failure, f)
    | none =>
      if Path.namesDirectory path then (some .isDirectory, f)
      else (none, f.put (Path.clean path) bytes)

end Folder

/-- The outcome of a program in a folder. -/
def Program.run {α : Type} (f : Folder) : Program α → α × Folder
  | done a => (a, f)
  | read path next => (next (f.text? path)).run f
  | write path bytes next =>
    let (failure, f) := f.write path bytes
    (next failure).run f

end Viewfinder
