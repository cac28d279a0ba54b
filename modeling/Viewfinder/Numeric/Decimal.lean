import Viewfinder.Numeric.Binary

/-!
# Decimal text of binary numbers

Reading takes a decimal literal to the nearest number of a format, or by one multiplication or
division to a double that may miss it by the last place. Writing gives the fewest digits that read
back, and of the literals with so few digits the one nearest to the number, always in positional
notation with a fractional part.
-/

namespace Viewfinder

/-- The literal `digits * 10 ^ exponent`, negated or not. -/
structure Decimal where
  negative : Bool
  digits : Nat
  exponent : Int
deriving DecidableEq, Repr

namespace Decimal

def magnitude (d : Decimal) : Rat := d.digits * (10 : Rat) ^ d.exponent

def rat (d : Decimal) : Rat := if d.negative then -d.magnitude else d.magnitude

/-- Number of decimal digits of `n`; zero has one. -/
def width (n : Nat) : Nat := (Nat.toDigits 10 n).length

/-- No format has numbers of more than 400 decimal places before or after the point, so that the
power of ten stays small whatever exponent was written. -/
def toBinary (f : BinaryFormat) (d : Decimal) : Binary f :=
  let leading : Int := width d.digits + d.exponent
  if d.digits = 0 ∨ leading < -400 then Binary.signedZero d.negative
  else if 400 < leading then .infinite d.negative
  else Binary.round f d.rat

/-- The literal without the last digits that 64 bits do not hold. -/
def clip (d : Decimal) : Decimal :=
  if UInt64.size ≤ d.digits then clip ⟨d.negative, d.digits / 10, d.exponent + 1⟩ else d
termination_by d.digits
decreasing_by
  have : 0 < UInt64.size := by decide
  exact Nat.div_lt_self (by omega) (by decide)

/-- A power of ten as a double. -/
def tenTo (k : Int) : Double := Binary.round .double ((10 : Rat) ^ k)

/-- The double that scaling gives: the digits that 64 bits hold are rounded, then multiplied or
divided by a power of ten and rounded again. Powers above 308 are out of reach, so that a larger
divisor is taken in two steps, and one above 616 leaves nothing. -/
def scaled (d : Decimal) : Double :=
  let k := d.clip.exponent
  let digits : Double := Binary.ofInt d.clip.digits
  let magnitude :=
    if 308 < k then (if d.digits = 0 then 0 else .infinite false)
    else if 0 ≤ k then digits * tenTo k
    else if -308 ≤ k then digits / tenTo (-k)
    else if -616 ≤ k then digits / tenTo 308 / tenTo (-k - 308)
    else 0
  if d.negative then -magnitude else magnitude

/-- The greatest `k` with `10 ^ k ≤ q`, for a positive `q`. -/
def floorLog10 (q : Rat) : Int :=
  if 1 ≤ q then width q.floor.toNat - 1
  else
    let k : Int := -(width (q⁻¹).floor.toNat)
    if (10 : Rat) ^ (k + 1) ≤ q then k + 1 else k

/-- Of the two multiples of `10 ^ place` around `q` the nearer one that reads back as `q`. -/
def nearestAt (f : BinaryFormat) (q : Rat) (place : Int) : Option Decimal :=
  let below := (q / (10 : Rat) ^ place).floor.toNat
  let readsBack (d : Decimal) : Bool := d.toBinary f = .finite q
  let low : Decimal := ⟨false, below, place⟩
  let high : Decimal := ⟨false, below + 1, place⟩
  match readsBack low, readsBack high with
  | true, true => some (if high.rat - q < q - low.rat then high else low)
  | true, false => some low
  | false, true => some high
  | false, false => none

/-- The shortest literal that reads back as the positive number `q`. The search starts above the
leading digit, where a number just below a power of ten may already be reached. -/
def shortest (f : BinaryFormat) (q : Rat) : Decimal :=
  let top := floorLog10 q
  ((List.range 21).findSome? fun (k : Nat) => nearestAt f q (top + 1 - k)).getD ⟨false, 0, 0⟩

/-- All digits with a point, at least one of them on either side of it. -/
def positional (d : Decimal) : String :=
  let digits := Nat.toDigits 10 d.digits
  let text :=
    if 0 ≤ d.exponent then digits ++ List.replicate d.exponent.toNat '0' ++ ['.', '0']
    else
      let places := (-d.exponent).toNat
      let padded := List.replicate (places + 1 - digits.length) '0' ++ digits
      padded.take (padded.length - places) ++ '.' :: padded.drop (padded.length - places)
  String.ofList (if d.negative then '-' :: text else text)

end Decimal

/-- The shortest positional text of a number, `inf`, `-inf` or `nan`. -/
def Binary.text {f : BinaryFormat} : Binary f → String
  | .nan => "nan"
  | .infinite negative => if negative then "-inf" else "inf"
  | .negativeZero => "-0.0"
  | .finite q =>
    if q = 0 then "0.0"
    else if q < 0 then { Decimal.shortest f (-q) with negative := true }.positional
    else (Decimal.shortest f q).positional

end Viewfinder
