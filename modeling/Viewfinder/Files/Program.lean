/-!
# Programs that use files

What a program does with files, said without doing it: it is done, or it asks for the contents of a
file or for a file to be written, and goes on with the answer.
-/

namespace Viewfinder

/-- Why a file was not written. -/
inductive WriteFailure where
  | noDirectory
  | notDirectory
  | isDirectory
  | denied
  | other (text : String)
deriving DecidableEq, Repr

def WriteFailure.message : WriteFailure → String
  | noDirectory => "No such file or directory (os error 2)"
  | notDirectory => "Not a directory (os error 20)"
  | isDirectory => "Is a directory (os error 21)"
  | denied => "Permission denied (os error 13)"
  | other text => text

inductive Program (α : Type) where
  | done (a : α)
  | read (path : String) (next : Option String → Program α)
  | write (path : String) (bytes : Array UInt8) (next : Option WriteFailure → Program α)

namespace Program

variable {α β : Type}

def bind (f : α → Program β) : Program α → Program β
  | done a => f a
  | read path next => read path fun text => (next text).bind f
  | write path bytes next => write path bytes fun failure => (next failure).bind f

instance : Monad Program where
  pure := done
  bind p f := p.bind f

/-- The contents of a file, if there is one of that name. -/
def contents? (path : String) : Program (Option String) := read path done

def save (path : String) (bytes : Array UInt8) : Program (Option WriteFailure) :=
  write path bytes done

end Program

end Viewfinder
