import Viewfinder.Text.Json

/-!
# Documents

What a settings file holds, whichever format it is written in. Integers have 64 bits; a JSON number
that is no such integer is a floating-point number.
-/

namespace Viewfinder

inductive Document where
  | null
  | bool (value : Bool)
  | integer (value : Int)
  | number (value : Double)
  | text (value : String)
  | list (items : List Document)
  | table (fields : List (String × Document))
deriving Repr, Inhabited

/-- Whether an integer has 64 bits. -/
def isInt64 (n : Int) : Bool := Int64.minValue.toInt ≤ n && n ≤ Int64.maxValue.toInt

/-- A number that JSON text may hold: none beyond the largest double. It is read by scaling. -/
def Json.double? (d : Decimal) : Option Double :=
  match d.scaled with
  | .infinite _ => none
  | x => some x

namespace Document

mutual

def ofJson? : Json → Option Document
  | .null => some null
  | .bool value => some (bool value)
  | .integer n =>
    if isInt64 n then some (integer n) else (Json.double? ⟨n < 0, n.natAbs, 0⟩).map number
  | .number d => (Json.double? d).map number
  | .text s => some (text s)
  | .list items => (ofItems? items).map list
  | .object fields => (ofFields? fields).map table

def ofItems? : List Json → Option (List Document)
  | [] => some []
  | item :: items => do return (← ofJson? item) :: (← ofItems? items)

/-- Of several fields of one name the last one counts. -/
def ofFields? : List (String × Json) → Option (List (String × Document))
  | [] => some []
  | (name, value) :: fields => do
    let value ← ofJson? value
    let rest ← ofFields? fields
    return if rest.any (·.1 = name) then rest else (name, value) :: rest

end

/-- The table that a JSON text denotes. -/
def ofJsonText? (s : String) : Option Document :=
  match (Json.parse? s).bind ofJson? with
  | some (table fields) => some (table fields)
  | _ => none

end Document

end Viewfinder
