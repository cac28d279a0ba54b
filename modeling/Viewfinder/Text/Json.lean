import Viewfinder.Numeric.Decimal

/-!
# JSON text

`Json.parse?` accepts exactly the texts of the grammar whose containers are nested at most 127 deep
and whose strings hold no unpaired surrogate. A literal without point and exponent is an integer,
any other number keeps its decimal digits, and `Json.render` writes a value on one line.
-/

namespace Viewfinder

inductive Json where
  | null
  | bool (value : Bool)
  | integer (value : Int)
  | number (value : Decimal)
  | text (value : String)
  | list (items : List Json)
  | object (fields : List (String × Json))
deriving Repr, Inhabited

namespace Json

def isBlank (c : Char) : Bool := c == ' ' || c == '\t' || c == '\n' || c == '\r'

def hexValue? (c : Char) : Option Nat :=
  if '0' ≤ c ∧ c ≤ '9' then some (c.toNat - 48)
  else if 'a' ≤ c ∧ c ≤ 'f' then some (c.toNat - 87)
  else if 'A' ≤ c ∧ c ≤ 'F' then some (c.toNat - 55)
  else none

def digitsValue (digits : List Char) : Nat :=
  digits.foldl (fun n c => 10 * n + (c.toNat - 48)) 0

/-- The 16-bit unit that four hexadecimal digits stand for. -/
def unit? (a b c d : Char) : Option Nat := do
  return 4096 * (← hexValue? a) + 256 * (← hexValue? b) + 16 * (← hexValue? c) + (← hexValue? d)

def escaped? : Char → Option Char
  | '"' => some '"'
  | '\\' => some '\\'
  | '/' => some '/'
  | 'b' => some '\x08'
  | 'f' => some '\x0c'
  | 'n' => some '\n'
  | 'r' => some '\r'
  | 't' => some '\t'
  | _ => none

/-- The characters up to the closing quote, before `reversed` in the order read. -/
def quoted? (reversed : List Char) : List Char → Option (String × List Char)
  | '"' :: rest => some (String.ofList reversed.reverse, rest)
  | '\\' :: 'u' :: a :: b :: c :: d :: rest =>
    match unit? a b c d with
    | none => none
    | some high =>
      if high < 0xd800 ∨ 0xdfff < high then quoted? (Char.ofNat high :: reversed) rest
      else if 0xdc00 ≤ high then none
      else
        match rest with
        | '\\' :: 'u' :: e :: f :: g :: h :: rest =>
          match unit? e f g h with
          | none => none
          | some low =>
            if low < 0xdc00 ∨ 0xdfff < low then none
            else
              let code := 0x10000 + 0x400 * (high - 0xd800) + (low - 0xdc00)
              quoted? (Char.ofNat code :: reversed) rest
        | _ => none
  | '\\' :: c :: rest =>
    match escaped? c with
    | none => none
    | some c => quoted? (c :: reversed) rest
  | c :: rest => if c < ' ' then none else quoted? (c :: reversed) rest
  | [] => none

/-- A run of at least one digit. -/
def digits? (s : List Char) : Option (List Char × List Char) :=
  match s.takeWhile Char.isDigit with
  | [] => none
  | digits => some (digits, s.dropWhile Char.isDigit)

def whole? : List Char → Option (List Char × List Char)
  | '0' :: rest => some (['0'], rest)
  | s => digits? s

def fraction? : List Char → Option (List Char × List Char)
  | '.' :: rest => digits? rest
  | s => some ([], s)

def signed (negative : Bool) (digits : List Char) : Int :=
  if negative then -(digitsValue digits : Int) else digitsValue digits

def exponent? : List Char → Option (Int × List Char)
  | 'e' :: rest | 'E' :: rest =>
    match rest with
    | '+' :: rest => (digits? rest).map fun (digits, rest) => (signed false digits, rest)
    | '-' :: rest => (digits? rest).map fun (digits, rest) => (signed true digits, rest)
    | rest => (digits? rest).map fun (digits, rest) => (signed false digits, rest)
  | s => some (0, s)

/-- A number after its sign. Minus zero is no integer. -/
def magnitude? (negative : Bool) (s : List Char) : Option (Json × List Char) := do
  let (whole, s₁) ← whole? s
  let (fraction, s₂) ← fraction? s₁
  let (exponent, s₃) ← exponent? s₂
  let digits := digitsValue (whole ++ fraction)
  if s₃.length = s₁.length ∧ ¬(negative ∧ digits = 0) then
    return (integer (signed negative whole), s₃)
  else return (number ⟨negative, digits, exponent - fraction.length⟩, s₃)

def word? (word : String) (value : Json) (s : List Char) : Option (Json × List Char) :=
  if word.toList.isPrefixOf s then some (value, s.drop word.length) else none

mutual

/-- A value, preceded by blanks, in containers of which `depth` more may be opened. -/
def value? (fuel depth : Nat) (s : List Char) : Option (Json × List Char) :=
  match fuel with
  | 0 => none
  | fuel + 1 =>
    match s.dropWhile isBlank with
    | '"' :: rest => (quoted? [] rest).map fun (s, rest) => (text s, rest)
    | '-' :: rest => magnitude? true rest
    | '[' :: rest =>
      if depth = 0 then none
      else
        match rest.dropWhile isBlank with
        | ']' :: rest => some (list [], rest)
        | rest => (items? fuel (depth - 1) rest).map fun (items, rest) => (list items, rest)
    | '\x7b' :: rest =>
      if depth = 0 then none
      else
        match rest.dropWhile isBlank with
        | '\x7d' :: rest => some (object [], rest)
        | rest => (fields? fuel (depth - 1) rest).map fun (fields, rest) => (object fields, rest)
    | c :: rest =>
      if c.isDigit then magnitude? false (c :: rest)
      else
        (word? "null" null (c :: rest)).orElse fun _ =>
          (word? "true" (bool true) (c :: rest)).orElse fun _ =>
            word? "false" (bool false) (c :: rest)
    | [] => none

def items? (fuel depth : Nat) (s : List Char) : Option (List Json × List Char) :=
  match fuel with
  | 0 => none
  | fuel + 1 =>
    match value? fuel depth s with
    | none => none
    | some (item, rest) =>
      match rest.dropWhile isBlank with
      | ',' :: rest => (items? fuel depth rest).map fun (items, rest) => (item :: items, rest)
      | ']' :: rest => some ([item], rest)
      | _ => none

def fields? (fuel depth : Nat) (s : List Char) : Option (List (String × Json) × List Char) :=
  match fuel with
  | 0 => none
  | fuel + 1 =>
    match s.dropWhile isBlank with
    | '"' :: rest =>
      match quoted? [] rest with
      | none => none
      | some (name, rest) =>
        match rest.dropWhile isBlank with
        | ':' :: rest =>
          match value? fuel depth rest with
          | none => none
          | some (value, rest) =>
            match rest.dropWhile isBlank with
            | ',' :: rest =>
              (fields? fuel depth rest).map fun (fields, rest) => ((name, value) :: fields, rest)
            | '\x7d' :: rest => some ([(name, value)], rest)
            | _ => none
        | _ => none
    | _ => none

end

/-- The value that a text denotes. Every call above consumes a character or opens a container, so
that twice the length is fuel enough. -/
def parse? (s : String) : Option Json :=
  let chars := s.toList
  match value? (2 * chars.length + 2) 127 chars with
  | some (value, rest) => if (rest.dropWhile isBlank).isEmpty then some value else none
  | none => none

/-- The last field of that name. -/
def field? (name : String) : Json → Option Json
  | object fields => (fields.reverse.find? (·.1 == name)).map (·.2)
  | _ => none

def hexDigits (width n : Nat) : String :=
  let digits := Nat.toDigits 16 n
  String.ofList (List.replicate (width - digits.length) '0' ++ digits)

def escape (c : Char) : String :=
  match c with
  | '"' => "\\\""
  | '\\' => "\\\\"
  | c => if c < ' ' then "\\u" ++ hexDigits 4 c.toNat else c.toString

def quote (s : String) : String := "\"" ++ String.join (s.toList.map escape) ++ "\""

mutual

def render : Json → String
  | null => "null"
  | bool value => if value then "true" else "false"
  | integer value => toString value
  | number d => (if d.negative then "-" else "") ++ toString d.digits ++ "e" ++ toString d.exponent
  | text value => quote value
  | list items => "[" ++ renderItems items ++ "]"
  | object fields => "\x7b" ++ renderFields fields ++ "\x7d"

def renderItems : List Json → String
  | [] => ""
  | [item] => render item
  | item :: items => render item ++ "," ++ renderItems items

def renderFields : List (String × Json) → String
  | [] => ""
  | [(name, value)] => quote name ++ ":" ++ render value
  | (name, value) :: fields => quote name ++ ":" ++ render value ++ "," ++ renderFields fields

end

end Json

end Viewfinder
