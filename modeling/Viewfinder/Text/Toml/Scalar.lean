import Viewfinder.Numeric.Decimal
import Viewfinder.Text.Document

/-!
# TOML scalars

Booleans, numbers and dates are words without blanks, apart from the one that may stand between a
date and a time. A date is kept as its text in normal form.
-/

namespace Viewfinder.Toml

def digitIn (base : Nat) (c : Char) : Bool := (Json.hexValue? c).any (· < base)

/-- The digits of a number with an underscore between two of them at most. -/
def digitsOf? (base : Nat) (s : List Char) : Option (List Char) :=
  go s true
where
  /-- `start` says that a digit has to come. -/
  go : List Char → Bool → Option (List Char)
    | [], start => if start then none else some []
    | '_' :: rest, start => if start then none else go rest true
    | c :: rest, _ => if digitIn base c then (go rest false).map (c :: ·) else none

def valueIn (base : Nat) (digits : List Char) : Nat :=
  digits.foldl (fun n c => base * n + (Json.hexValue? c).getD 0) 0

/-- Decimal digits without a leading zero. -/
def wholeOf? (s : List Char) : Option (List Char) :=
  match digitsOf? 10 s with
  | some ('0' :: _ :: _) => none
  | digits => digits

def unsign : List Char → Bool × List Char
  | '-' :: rest => (true, rest)
  | '+' :: rest => (false, rest)
  | s => (false, s)

def integerOf? (s : List Char) : Option Int :=
  let value? : Option Int :=
    match s with
    | '0' :: 'x' :: rest => (digitsOf? 16 rest).map fun d => (valueIn 16 d : Int)
    | '0' :: 'o' :: rest => (digitsOf? 8 rest).map fun d => (valueIn 8 d : Int)
    | '0' :: 'b' :: rest => (digitsOf? 2 rest).map fun d => (valueIn 2 d : Int)
    | s =>
      let (negative, s) := unsign s
      (wholeOf? s).map fun d => if negative then -(valueIn 10 d : Int) else valueIn 10 d
  value?.filter isInt64

def isExponentMark (c : Char) : Bool := c == 'e' || c == 'E'

/-- The number after a sign: it has a fraction or an exponent or both. -/
def decimalOf? (negative : Bool) (s : List Char) : Option Decimal := do
  let mantissa := s.takeWhile (!isExponentMark ·)
  let exponent ← match s.dropWhile (!isExponentMark ·) with
    | [] => some 0
    | _ :: rest =>
      let (negative, rest) := unsign rest
      (digitsOf? 10 rest).map fun d => if negative then -(valueIn 10 d : Int) else valueIn 10 d
  let whole ← wholeOf? (mantissa.takeWhile (· ≠ '.'))
  match mantissa.dropWhile (· ≠ '.') with
  | [] =>
    if mantissa.length = s.length then none else some ⟨negative, valueIn 10 whole, exponent⟩
  | _ :: rest =>
    let fraction ← digitsOf? 10 rest
    some ⟨negative, valueIn 10 (whole ++ fraction), exponent - fraction.length⟩

/-- A floating-point number. Digits that stand for more than the largest one are refused. -/
def numberOf? (s : List Char) : Option Double :=
  let (negative, s) := unsign s
  if s = "inf".toList then some (.infinite negative)
  else if s = "nan".toList then some .nan
  else ((decimalOf? negative s).map (·.toBinary .double)).filter (· ≠ .infinite false)

/-! ## Dates -/

/-- A number of exactly so many digits, within bounds. -/
def field? (width low high : Nat) (s : List Char) : Option (Nat × List Char) :=
  let digits := s.take width
  if digits.length = width ∧ digits.all Char.isDigit then
    let n := valueIn 10 digits
    if low ≤ n ∧ n ≤ high then some (n, s.drop width) else none
  else none

def expect? (c : Char) : List Char → Option (List Char)
  | d :: rest => if c = d then some rest else none
  | [] => none

def daysIn (year month : Nat) : Nat :=
  if month = 2 then (if year % 4 = 0 ∧ (year % 100 ≠ 0 ∨ year % 400 = 0) then 29 else 28)
  else if month ∈ [4, 6, 9, 11] then 30 else 31

def padded (width n : Nat) : String :=
  let digits := toString n
  String.ofList (List.replicate (width - digits.length) '0') ++ digits

def date? (s : List Char) : Option (String × List Char) := do
  let (year, s) ← field? 4 0 9999 s
  let s ← expect? '-' s
  let (month, s) ← field? 2 1 12 s
  let s ← expect? '-' s
  let (day, s) ← field? 2 1 (daysIn year month) s
  return (s!"{padded 4 year}-{padded 2 month}-{padded 2 day}", s)

/-- The first nine places of a fraction of a second, without zeros at the end. -/
def secondFraction (digits : List Char) : String :=
  let places := ((digits.take 9).reverse.dropWhile (· = '0')).reverse
  if places.isEmpty then "" else String.ofList ('.' :: places)

def time? (s : List Char) : Option (String × List Char) := do
  let (hour, s) ← field? 2 0 23 s
  let s ← expect? ':' s
  let (minute, s) ← field? 2 0 59 s
  let s ← expect? ':' s
  let (second, s) ← field? 2 0 60 s
  let text := s!"{padded 2 hour}:{padded 2 minute}:{padded 2 second}"
  match s with
  | '.' :: rest =>
    let (digits, s) ← Json.digits? rest
    return (text ++ secondFraction digits, s)
  | s => return (text, s)

def offset? : List Char → Option (String × List Char)
  | 'Z' :: rest | 'z' :: rest => some ("Z", rest)
  | sign :: rest => do
    if sign ≠ '+' ∧ sign ≠ '-' then none
    let (hour, s) ← field? 2 0 23 rest
    let s ← expect? ':' s
    let (minute, s) ← field? 2 0 59 s
    return (s!"{sign}{padded 2 hour}:{padded 2 minute}", s)
  | [] => none

def isTimeMark (c : Char) : Bool := c == 'T' || c == 't' || c == ' '

/-- A date, a time, or both, at the start of a text. A blank after a date belongs to it only if a
time follows. -/
def moment? (s : List Char) : Option (String × List Char) :=
  match date? s with
  | none => time? s
  | some (date, rest) =>
    match rest with
    | [] => some (date, rest)
    | mark :: after =>
      if !isTimeMark mark then some (date, rest)
      else
        match time? after with
        | none => if mark = ' ' then some (date, rest) else none
        | some (time, after) =>
          match offset? after with
          | some (offset, after) => some (s!"{date}T{time}{offset}", after)
          | none => some (s!"{date}T{time}", after)

/-! ## Words -/

/-- Where a word ends. -/
def isDelimiter (c : Char) : Bool :=
  c ∈ [' ', '\t', '\n', '\r', ',', ']', '\x7d', '#']

def word? (s : List Char) : Option Document :=
  if s = "true".toList then some (.bool true)
  else if s = "false".toList then some (.bool false)
  else
    match integerOf? s with
    | some n => some (.integer n)
    | none => (numberOf? s).map .number

/-- The scalar at the start of a text. -/
def scalar? (s : List Char) : Option (Document × List Char) :=
  match moment? s with
  | some (text, rest) =>
    match rest with
    | [] => some (.text text, rest)
    | c :: _ => if isDelimiter c then some (.text text, rest) else none
  | none =>
    (word? (s.takeWhile (!isDelimiter ·))).map fun d => (d, s.dropWhile (!isDelimiter ·))

end Viewfinder.Toml
