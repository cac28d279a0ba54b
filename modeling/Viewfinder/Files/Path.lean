/-!
# Paths of files

Names between slashes. A name that is a single dot stands for the directory that it is in.
-/

namespace Viewfinder.Path

/-- The names that a relative path goes through. -/
def names (path : String) : List String := (path.splitOn "/").filter fun n => n ≠ "" ∧ n ≠ "."

/-- The path without what does not lead anywhere. -/
def clean (path : String) : String :=
  let joined := "/".intercalate (names path)
  if path.startsWith "/" then "/" ++ joined else joined

/-- Whether only a directory can be meant. -/
def namesDirectory (path : String) : Bool := (path.splitOn "/").getLast?.any (· ∈ ["", ".", ".."])

/-- What follows the last point of the last name, unless the name begins with that point. -/
def extension? (path : String) : Option String :=
  match (names path).getLast? with
  | none => none
  | some name =>
    match name.splitOn "." with
    | [] | [_] | ["", _] => none
    | parts => parts.getLast?

end Viewfinder.Path
