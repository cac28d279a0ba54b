import Viewfinder.Text.Document

/-!
# Tables of a TOML document

Tables come from headers, from dotted keys, or as steps on the way to either. A header may complete
a table that was only a step so far, and a dotted key may extend the tables of dotted keys, but
nothing is defined twice and neither reopens what the other one defined.
-/

namespace Viewfinder.Toml

inductive Node where
  /-- A value, complete as it stands. -/
  | value (d : Document)
  /-- A table; `implicit` until a header names it, and `dotted` if a dotted key made it. -/
  | table (implicit dotted : Bool) (entries : List (String × Node))
  | tables (items : List (List (String × Node)))
deriving Inhabited

abbrev Entries := List (String × Node)

namespace Entries

def get? (es : Entries) (key : String) : Option Node := (es.find? (·.1 = key)).map (·.2)

def set (es : Entries) (key : String) (n : Node) : Entries :=
  if es.any (·.1 = key) then es.map fun e => if e.1 = key then (key, n) else e else es ++ [(key, n)]

/-- Change the last of some tables. -/
def mapLast? (f : Entries → Option Entries) (items : List Entries) : Option (List Entries) := do
  let last ← items.getLast?
  return items.dropLast ++ [← f last]

/-- Define a key, dotted if it has several parts. -/
def insert? (d : Document) : List String → Entries → Option Entries
  | [], _ => none
  | [key], es => if (es.get? key).isSome then none else some (es.set key (.value d))
  | key :: next :: rest, es =>
    match es.get? key with
    | none => (insert? d (next :: rest) []).map fun inner => es.set key (.table true true inner)
    | some (.table implicit dotted inner) =>
      if !implicit || (rest.isEmpty && !dotted) then none
      else (insert? d (next :: rest) inner).map fun inner => es.set key (.table true dotted inner)
    | some (.tables items) =>
      if rest.isEmpty then none
      else (mapLast? (insert? d (next :: rest)) items).map fun items => es.set key (.tables items)
    | some (.value _) => none

/-- Go to the tables along a path, making those that are missing, and change the last one. -/
def modify? (f : Entries → Option Entries) : List String → Entries → Option Entries
  | [], es => f es
  | key :: rest, es =>
    match es.get? key with
    | none => (modify? f rest []).map fun inner => es.set key (.table true false inner)
    | some (.table implicit dotted inner) =>
      (modify? f rest inner).map fun inner => es.set key (.table implicit dotted inner)
    | some (.tables items) =>
      (mapLast? (modify? f rest) items).map fun items => es.set key (.tables items)
    | some (.value _) => none

/-- A header names the table at a key for the first time. -/
def openTable? (key : String) (es : Entries) : Option Entries :=
  match es.get? key with
  | none => some (es.set key (.table false false []))
  | some (.table true false inner) => some (es.set key (.table false false inner))
  | _ => none

/-- A header adds a table to those at a key. -/
def appendTable? (key : String) (es : Entries) : Option Entries :=
  match es.get? key with
  | none => some (es.set key (.tables [[]]))
  | some (.tables items) => some (es.set key (.tables (items ++ [[]])))
  | _ => none

mutual

def toDocument : Node → Document
  | .value d => d
  | .table _ _ entries => .table (toFields entries)
  | .tables items => .list (toTables items)

def toFields : List (String × Node) → List (String × Document)
  | [] => []
  | (key, n) :: rest => (key, toDocument n) :: toFields rest

def toTables : List (List (String × Node)) → List Document
  | [] => []
  | es :: rest => .table (toFields es) :: toTables rest

end

end Entries

end Viewfinder.Toml
