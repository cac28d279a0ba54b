/-!
# Binary floating-point numbers

A number is an exact rational, an infinity or NaN. Every operation computes the exact result and
rounds it once to the nearest number of its format, a tie going to the even neighbour, so that
statements about a formula are statements about rationals and `Binary.round`.

Negative zero is a constructor of its own because it is written differently. An operation whose
exact result is zero returns the positive one.
-/

namespace Viewfinder

/-- The binary interchange formats: bits of the significand and the largest exponent. -/
structure BinaryFormat where
  precision : Nat
  maxExponent : Nat
deriving DecidableEq, Repr

namespace BinaryFormat

def single : BinaryFormat := ⟨24, 127⟩

def double : BinaryFormat := ⟨53, 1023⟩

/-- Exponent of the last place of the smallest positive number. -/
def minPlace (f : BinaryFormat) : Int := 2 - f.maxExponent - f.precision

/-- Power of two that every finite number lies below. -/
def bound (f : BinaryFormat) : Rat := (2 : Rat) ^ (f.maxExponent + 1)

end BinaryFormat

namespace Rounding

/-- The integer nearest to `q`, the even one of two at the same distance. -/
def toEven (q : Rat) : Int :=
  let below := q.floor
  if q - below < 1 / 2 then below
  else if 1 / 2 < q - below then below + 1
  else if below % 2 = 0 then below else below + 1

/-- The integer nearest to `q`, the one farther from zero of two at the same distance. -/
def awayFromZero (q : Rat) : Int :=
  if q < 0 then -(-q + 1 / 2).floor else (q + 1 / 2).floor

/-- The integer next to `q` on the side of zero. -/
def towardZero (q : Rat) : Int := if q < 0 then -(-q).floor else q.floor

end Rounding

/-- The greatest `k` with `2 ^ k ≤ q`, for a positive `q`. -/
def floorLog2 (q : Rat) : Int :=
  let k : Int := q.num.natAbs.log2 - q.den.log2
  if (2 : Rat) ^ k ≤ q then k else k - 1

inductive Binary (f : BinaryFormat) where
  | nan
  | infinite (negative : Bool)
  | negativeZero
  | finite (value : Rat)
deriving DecidableEq, Repr

abbrev Single := Binary .single

abbrev Double := Binary .double

namespace Binary

variable {f : BinaryFormat}

/-- Exponent of the last place that the format keeps of a positive magnitude. -/
def place (f : BinaryFormat) (magnitude : Rat) : Int :=
  max f.minPlace (floorLog2 magnitude + 1 - f.precision)

/-- The number of the format nearest to `q`; beyond the largest one by half a place or more, an
infinity. -/
def round (f : BinaryFormat) (q : Rat) : Binary f :=
  if q = 0 then .finite 0
  else
    let unit := (2 : Rat) ^ place f (if q < 0 then -q else q)
    let rounded := Rounding.toEven (q / unit) * unit
    if f.bound ≤ rounded then .infinite false
    else if rounded ≤ -f.bound then .infinite true
    else if rounded = 0 then (if q < 0 then .negativeZero else .finite 0)
    else .finite rounded

/-- The exact value of a number that has one. -/
def rat? : Binary f → Option Rat
  | nan | infinite _ => none
  | negativeZero => some 0
  | finite q => some q

def isNegative : Binary f → Bool
  | nan => false
  | infinite negative => negative
  | negativeZero => true
  | finite q => decide (q < 0)

def signedZero (negative : Bool) : Binary f := if negative then negativeZero else finite 0

/-- The same value in another format. -/
def convert (g : BinaryFormat) : Binary f → Binary g
  | nan => nan
  | infinite negative => infinite negative
  | negativeZero => negativeZero
  | finite q => round g q

def neg : Binary f → Binary f
  | nan => nan
  | infinite negative => infinite !negative
  | negativeZero => finite 0
  | finite q => if q = 0 then negativeZero else finite (-q)

def abs (x : Binary f) : Binary f := if x.isNegative then x.neg else x

def add (x y : Binary f) : Binary f :=
  match x, y with
  | nan, _ | _, nan => nan
  | infinite a, infinite b => if a = b then infinite a else nan
  | infinite a, _ => infinite a
  | _, infinite b => infinite b
  | x, y => round f (x.rat?.getD 0 + y.rat?.getD 0)

def mul (x y : Binary f) : Binary f :=
  match x.rat?, y.rat? with
  | some a, some b => round f (a * b)
  | _, _ =>
    if x = nan ∨ y = nan ∨ x.rat? = some 0 ∨ y.rat? = some 0 then nan
    else infinite (x.isNegative != y.isNegative)

def div (x y : Binary f) : Binary f :=
  match x.rat?, y.rat? with
  | some a, some b =>
    if b ≠ 0 then round f (a / b)
    else if a = 0 then nan else infinite (x.isNegative != y.isNegative)
  | none, none => nan
  | none, some _ => if x = nan then nan else infinite (x.isNegative != y.isNegative)
  | some _, none => if y = nan then nan else signedZero (x.isNegative != y.isNegative)

instance : Neg (Binary f) := ⟨neg⟩
instance : Add (Binary f) := ⟨add⟩
instance : Sub (Binary f) := ⟨fun x y => x.add y.neg⟩
instance : Mul (Binary f) := ⟨mul⟩
instance : Div (Binary f) := ⟨div⟩

/-- Order of the values; NaN is above and below nothing. -/
def le (x y : Binary f) : Bool :=
  match x, y with
  | nan, _ | _, nan => false
  | infinite true, _ | _, infinite false => true
  | _, infinite true | infinite false, _ => false
  | x, y => decide (x.rat?.getD 0 ≤ y.rat?.getD 0)

def lt (x y : Binary f) : Bool := x.le y && !y.le x

instance : LE (Binary f) := ⟨fun x y => x.le y = true⟩
instance : LT (Binary f) := ⟨fun x y => x.lt y = true⟩
instance (x y : Binary f) : Decidable (x ≤ y) := inferInstanceAs (Decidable (x.le y = true))
instance (x y : Binary f) : Decidable (x < y) := inferInstanceAs (Decidable (x.lt y = true))

def ofInt (n : Int) : Binary f := round f n

instance (n : Nat) : OfNat (Binary f) n := ⟨ofInt n⟩

/-- The integer that `part` makes of a value, brought into `[low, high]`; NaN gives zero. -/
def toIntWithin (part : Rat → Int) (low high : Int) : Binary f → Int
  | nan => 0
  | infinite true => low
  | infinite false => high
  | negativeZero => max low (min high 0)
  | finite q => max low (min high (part q))

/-- The integer part, kept within 32 bits. -/
def toInt32 (x : Binary f) : Int32 :=
  Int32.ofInt (x.toIntWithin Rounding.towardZero Int32.minValue.toInt Int32.maxValue.toInt)

/-- The encoding in sign, biased exponent and significand; a NaN is the quiet one without sign. -/
def bits : Binary f → Nat
  | nan => (2 * f.maxExponent + 1) <<< (f.precision - 1) + 1 <<< (f.precision - 2)
  | infinite negative => sign negative + (2 * f.maxExponent + 1) <<< (f.precision - 1)
  | negativeZero => sign true
  | finite q =>
    if q = 0 then 0
    else
      let magnitude := if q < 0 then -q else q
      let place := place f magnitude
      let significand := (magnitude / (2 : Rat) ^ place).floor.toNat
      sign (q < 0) + (place - f.minPlace).toNat <<< (f.precision - 1) + significand
where
  sign (negative : Bool) : Nat :=
    if negative then (2 * f.maxExponent + 2) <<< (f.precision - 1) else 0

end Binary

end Viewfinder
