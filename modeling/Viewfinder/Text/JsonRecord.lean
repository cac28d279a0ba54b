import Viewfinder.Numeric.Decimal
import Viewfinder.Text.Json

/-!
# Records in JSON

A record is an object, of which other keys are ignored, or a list of its fields in order. Readers
give nothing for a value of another kind or beyond its range.
-/

namespace Viewfinder.Json

/-- The fields of those names, each if it is there. A list must not be longer. -/
def record? (names : List String) : Json → Option (List (Option Json))
  | object fields => some (names.map fun name => (object fields).field? name)
  | list items =>
    if items.length ≤ names.length then
      some ((items.map some) ++ List.replicate (names.length - items.length) none)
    else none
  | _ => none

/-- A field that may be left out. -/
def orDefault {α : Type} (default : α) (read : Json → Option α) : Option Json → Option α
  | none => some default
  | some j => read j

/-- The word that a text, or an object with that one key and no value, holds. -/
def variant? : Json → Option String
  | text s => some s
  | object [(name, null)] => some name
  | _ => none

/-- One of several values, by its exact name. -/
def oneOf? {α : Type} (values : List α) (name : α → String) (j : Json) : Option α :=
  j.variant?.bind fun word => values.find? (name · = word)

def bool? : Json → Option Bool
  | bool b => some b
  | _ => none

/-- An integer between two bounds. -/
def integer? (low high : Int) : Json → Option Int
  | integer n => if low ≤ n ∧ n ≤ high then some n else none
  | _ => none

def natural? (bits : Nat) (j : Json) : Option Nat :=
  ((j.integer? 0 ((1 <<< bits : Nat) - 1)).map Int.toNat)

/-- A number of a format. One that is no integer of 64 bits is first scaled to a double. -/
def binary? (f : BinaryFormat) : Json → Option (Binary f)
  | integer n =>
    if Int64.minValue.toInt ≤ n ∧ n < UInt64.size then some (Binary.ofInt n)
    else some ((⟨n < 0, n.natAbs, 0⟩ : Decimal).scaled.convert f)
  | number d => some (d.scaled.convert f)
  | _ => none

end Viewfinder.Json
