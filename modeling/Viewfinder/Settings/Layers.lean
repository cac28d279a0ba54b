import Viewfinder.Settings.Key
import Viewfinder.Text.Lowercase

/-!
# Layers of settings

What is set, gathered from several places of which a later one takes precedence: a tree of values,
each with the place that it came from. Keys are in lower case. A table is merged into what is there,
anything else replaces it.
-/

namespace Viewfinder.Settings

/-- A value with its origin, or a table, which has none as a whole. A default has no origin. -/
inductive Layered where
  | value (d : Document) (origin : Option String)
  | table (entries : List (String × Layered))
deriving Inhabited

namespace Layered

abbrev Entries := List (String × Layered)

def Entries.get? (es : Entries) (key : String) : Option Layered := (es.find? (·.1 = key)).map (·.2)

def Entries.set (es : Entries) (key : String) (t : Layered) : Entries :=
  if es.any (·.1 = key) then es.map fun e => if e.1 = key then (key, t) else e else es ++ [(key, t)]

/-- The entries of the table at a key; what is no table has none. -/
def Entries.inner (es : Entries) (key : String) : Entries :=
  match es.get? key with
  | some (table inner) => inner
  | _ => []

mutual

/-- Set one key. An empty table changes no value that is there. -/
def Entries.merge (origin : Option String) (es : Entries) (key : String) : Document → Entries
  | .table [] => if (es.get? key).isSome then es else es.set key (table [])
  | .table (f :: fields) =>
    es.set key (table (Entries.mergeAll origin (es.inner key) (f :: fields)))
  | d => es.set key (value d origin)

def Entries.mergeAll (origin : Option String) (es : Entries) : List (String × Document) → Entries
  | [] => es
  | (key, d) :: fields => (es.merge origin (Text.lowercase key) d).mergeAll origin fields

end

/-- Set the key at the end of a path. Everything on the way becomes a table. -/
def Entries.mergeAt (origin : Option String) (es : Entries) (d : Document) : List String → Entries
  | [] => es
  | [key] => es.merge origin key d
  | key :: next :: path =>
    es.set key (table (Entries.mergeAt origin (es.inner key) d (next :: path)))

end Layered

/-! ## Paths -/

def isKeyChar (c : Char) : Bool := c.isAlphanum || c == '_' || c == '-'

/-- A part of a path: it begins with a letter or a digit. -/
def isPathPart (part : String) : Bool :=
  match part.toList with
  | c :: rest => c.isAlphanum && rest.all isKeyChar
  | [] => false

/-- A key of the outermost table, read as a path if it has the form of one. -/
def pathOf (key : String) : List String :=
  let lower := Text.lowercase key
  let parts := lower.splitOn "."
  if parts.all isPathPart then parts else [lower]

/-! ## The three layers -/

def defaultEntries : Layered.Entries :=
  Layered.Entries.mergeAll none [] (({} : Settings).toFields.map fun p => (p.1, .table p.2))

def addDocument (name : String) (fields : List (String × Document)) (es : Layered.Entries) :
    Layered.Entries :=
  fields.foldl (fun es (key, d) => es.mergeAt (some name) d (pathOf key)) es

/-- The path that an environment variable sets: its name after the leading word, two underscores
standing for a point. -/
def variablePath? (name : String) : Option (List String) :=
  let lead := "quickcam_".toList
  let lower := (Text.lowercase name).toList
  if lead.isPrefixOf lower then
    some (pathOf (".".intercalate ((String.ofList (lower.drop lead.length)).splitOn "__")))
  else none

def addVariables (environment : List (String × String)) (es : Layered.Entries) : Layered.Entries :=
  environment.foldl (fun es (name, s) =>
    (variablePath? name).elim es fun path => es.mergeAt (some "the environment") (.text s) path) es

end Viewfinder.Settings
