import Viewfinder.Text.Json
import Viewfinder.Text.Lowercase

/-!
# Numbers as plain text

Numbers that stand alone in a text: decimal digits after an optional sign, and for a floating-point
number also a point, an exponent, or one of the words for what is not finite.
-/

namespace Viewfinder.Text

/-- A natural number; a plus may stand before it. -/
def natural? (s : String) : Option Nat :=
  let digits := match s.toList with
    | '+' :: rest => rest
    | s => s
  if !digits.isEmpty && digits.all Char.isDigit then some (Json.digitsValue digits) else none

/-- An integer; a plus or a minus may stand before it. -/
def integer? (s : String) : Option Int :=
  match s.toList with
  | '-' :: rest =>
    if !rest.isEmpty && rest.all Char.isDigit then some (-(Json.digitsValue rest : Int)) else none
  | _ => (natural? s).map fun n => (n : Int)

/-- The exponent at the end of a number, if there is one. -/
def exponent? (s : List Char) : Option Int :=
  match Json.exponent? s with
  | some (e, []) => some e
  | _ => none

/-- A number after its sign. One of the two sides of a point may be empty. -/
def decimal? (negative : Bool) (s : List Char) : Option Decimal :=
  let whole := s.takeWhile Char.isDigit
  let rest := s.dropWhile Char.isDigit
  let (fraction, rest) := match rest with
    | '.' :: rest => (rest.takeWhile Char.isDigit, rest.dropWhile Char.isDigit)
    | rest => ([], rest)
  if whole.isEmpty && fraction.isEmpty then none
  else
    (exponent? rest).map fun e =>
      ⟨negative, Json.digitsValue (whole ++ fraction), e - fraction.length⟩

def unsignedDouble? (negative : Bool) (s : List Char) : Option Double :=
  let word := lowercase (String.ofList s)
  if word = "inf" ∨ word = "infinity" then some (.infinite negative)
  else if word = "nan" then some .nan
  else (decimal? negative s).map (·.toBinary .double)

def double? (s : String) : Option Double :=
  match s.toList with
  | '-' :: rest => unsignedDouble? true rest
  | '+' :: rest => unsignedDouble? false rest
  | s => unsignedDouble? false s

end Viewfinder.Text
