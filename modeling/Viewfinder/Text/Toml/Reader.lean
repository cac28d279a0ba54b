import Viewfinder.Text.Toml.Scalar
import Viewfinder.Text.Toml.Tree

/-!
# TOML text

`Toml.parse?` reads a document of version 1.0 of the format. Lines end in a line feed, alone or
after a carriage return; a carriage return elsewhere is refused like any other control character.
-/

namespace Viewfinder.Toml

/-- Characters that may stand for themselves in a comment or on one line of a string. -/
def isTextChar (c : Char) : Bool := c == '\t' || (' ' ≤ c && c ≠ '\x7f')

def isBlank (c : Char) : Bool := c == ' ' || c == '\t'

def skipBlanks (s : List Char) : List Char := s.dropWhile isBlank

/-- Line ends in one form. -/
def unifyLines : List Char → List Char
  | '\r' :: '\n' :: rest => '\n' :: unifyLines rest
  | c :: rest => c :: unifyLines rest
  | [] => []

/-- What follows a comment, if one stands here. -/
def skipComment? (s : List Char) : Option (List Char) :=
  match s with
  | '#' :: rest =>
    if (rest.takeWhile (· ≠ '\n')).all isTextChar then some (rest.dropWhile (· ≠ '\n')) else none
  | s => some s

/-- The next line, if the rest of this one holds a comment at most. -/
def endLine? (s : List Char) : Option (List Char) :=
  match skipComment? (skipBlanks s) with
  | some ('\n' :: rest) => some rest
  | some [] => some []
  | _ => none

/-- What follows blanks, comments and line ends. -/
def skipLines? (comment : Bool) : List Char → Option (List Char)
  | '\n' :: rest => skipLines? false rest
  | c :: rest =>
    if comment then (if isTextChar c then skipLines? true rest else none)
    else if isBlank c then skipLines? false rest
    else if c = '#' then skipLines? true rest
    else some (c :: rest)
  | [] => some []

/-! ## Strings -/

def scalarValue? (n : Nat) : Option Char := if n.isValidChar then some (Char.ofNat n) else none

def unicode? (digits : List Char) : Option Char :=
  if digits.all (digitIn 16) then scalarValue? (valueIn 16 digits) else none

def escaped? : Char → Option Char
  | 'b' => some '\x08'
  | 't' => some '\t'
  | 'n' => some '\n'
  | 'f' => some '\x0c'
  | 'r' => some '\r'
  | '"' => some '"'
  | '\\' => some '\\'
  | _ => none

/-- The rest of a string in double quotes on one line. -/
def basic? (reversed : List Char) : List Char → Option (String × List Char)
  | '"' :: rest => some (String.ofList reversed.reverse, rest)
  | '\\' :: 'u' :: a :: b :: c :: d :: rest =>
    (unicode? [a, b, c, d]).bind fun u => basic? (u :: reversed) rest
  | '\\' :: 'U' :: a :: b :: c :: d :: e :: f :: g :: h :: rest =>
    (unicode? [a, b, c, d, e, f, g, h]).bind fun u => basic? (u :: reversed) rest
  | '\\' :: c :: rest => (escaped? c).bind fun c => basic? (c :: reversed) rest
  | c :: rest => if isTextChar c then basic? (c :: reversed) rest else none
  | [] => none

/-- The quotes that end a string of several lines; up to two more belong to it. -/
def closing? (quote : Char) (s : List Char) : Option (List Char × List Char) :=
  let quotes := min 5 (s.takeWhile (· = quote)).length
  if quotes < 3 then none else some (List.replicate (quotes - 3) quote, s.drop quotes)

/-- The rest of a string in double quotes on several lines. After a backslash at the end of a line
blanks and line ends are `skipped`. -/
def basicLines? (reversed : List Char) (skipped : Bool) : List Char → Option (String × List Char)
  | [] => none
  | c :: rest =>
    if skipped && (isBlank c || c = '\n') then basicLines? reversed true rest
    else
      match closing? '"' (c :: rest) with
      | some (more, rest) => some (String.ofList (reversed.reverse ++ more), rest)
      | none =>
        if c = '\\' then
          match rest with
          | 'u' :: a :: b :: c :: d :: rest =>
            (unicode? [a, b, c, d]).bind fun u => basicLines? (u :: reversed) false rest
          | 'U' :: a :: b :: c :: d :: e :: f :: g :: h :: rest =>
            (unicode? [a, b, c, d, e, f, g, h]).bind fun u => basicLines? (u :: reversed) false rest
          | e :: after =>
            if (skipBlanks (e :: after)).head? = some '\n' then
              basicLines? reversed true (e :: after)
            else (escaped? e).bind fun e => basicLines? (e :: reversed) false after
          | [] => none
        else if isTextChar c || c = '\n' then basicLines? (c :: reversed) false rest
        else none

def literal? (s : List Char) : Option (String × List Char) :=
  let body := s.takeWhile (· ≠ '\'')
  match s.dropWhile (· ≠ '\'') with
  | _ :: rest => if body.all isTextChar then some (String.ofList body, rest) else none
  | [] => none

def literalLines? (reversed : List Char) : List Char → Option (String × List Char)
  | [] => none
  | c :: rest =>
    match closing? '\'' (c :: rest) with
    | some (more, rest) => some (String.ofList (reversed.reverse ++ more), rest)
    | none => if isTextChar c || c = '\n' then literalLines? (c :: reversed) rest else none

/-- A line end right after the opening quotes is no part of the string. -/
def dropLineEnd : List Char → List Char
  | '\n' :: rest => rest
  | s => s

def string? : List Char → Option (String × List Char)
  | '"' :: '"' :: '"' :: rest => basicLines? [] false (dropLineEnd rest)
  | '\'' :: '\'' :: '\'' :: rest => literalLines? [] (dropLineEnd rest)
  | '"' :: rest => basic? [] rest
  | '\'' :: rest => literal? rest
  | _ => none

/-! ## Keys -/

def isBareChar (c : Char) : Bool := c.isAlphanum || c == '_' || c == '-'

def simpleKey? (s : List Char) : Option (String × List Char) :=
  match s with
  | '"' :: rest => basic? [] rest
  | '\'' :: rest => literal? rest
  | s =>
    match s.takeWhile isBareChar with
    | [] => none
    | key => some (String.ofList key, s.dropWhile isBareChar)

/-- The parts of a key, up to the first character after its blanks. -/
def key? : Nat → List Char → Option (List String × List Char)
  | 0, _ => none
  | fuel + 1, s =>
    match simpleKey? (skipBlanks s) with
    | none => none
    | some (part, rest) =>
      match skipBlanks rest with
      | '.' :: rest => (key? fuel rest).map fun (parts, rest) => (part :: parts, rest)
      | rest => some ([part], rest)

/-- A key and the sign after it. -/
def keyEquals? (s : List Char) : Option (List String × List Char) :=
  match key? s.length s with
  | some (path, '=' :: rest) => some (path, rest)
  | _ => none

/-! ## Values -/

mutual

def value? (fuel : Nat) (s : List Char) : Option (Document × List Char) :=
  match fuel with
  | 0 => none
  | fuel + 1 =>
    match skipBlanks s with
    | '[' :: rest => (items? fuel rest).map fun (items, rest) => (.list items, rest)
    | '\x7b' :: rest =>
      match skipBlanks rest with
      | '\x7d' :: rest => some (.table [], rest)
      | rest => (fields? fuel [] rest).map fun (es, rest) => (.table (Entries.toFields es), rest)
    | '"' :: rest => (string? ('"' :: rest)).map fun (s, rest) => (.text s, rest)
    | '\'' :: rest => (string? ('\'' :: rest)).map fun (s, rest) => (.text s, rest)
    | s => scalar? s

/-- The items of an array, which may run over several lines and end in a comma. -/
def items? (fuel : Nat) (s : List Char) : Option (List Document × List Char) :=
  match fuel with
  | 0 => none
  | fuel + 1 =>
    match skipLines? false s with
    | none => none
    | some (']' :: rest) => some ([], rest)
    | some s =>
      match value? fuel s with
      | none => none
      | some (item, rest) =>
        match skipLines? false rest with
        | some (',' :: rest) => (items? fuel rest).map fun (items, rest) => (item :: items, rest)
        | some (']' :: rest) => some ([item], rest)
        | _ => none

/-- The fields of a table on one line. -/
def fields? (fuel : Nat) (es : Entries) (s : List Char) : Option (Entries × List Char) :=
  match fuel with
  | 0 => none
  | fuel + 1 =>
    match keyEquals? s with
    | none => none
    | some (path, rest) =>
      match value? fuel rest with
      | none => none
      | some (d, rest) =>
        match es.insert? d path with
        | none => none
        | some es =>
          match skipBlanks rest with
          | ',' :: rest => fields? fuel es rest
          | '\x7d' :: rest => some (es, rest)
          | _ => none

end

/-! ## Lines -/

/-- The document so far and the path of the header in force. -/
structure Reading where
  root : Entries := []
  header : List String := []

def Reading.tableHeader? (r : Reading) (path : List String) : Option Reading := do
  let key ← path.getLast?
  return ⟨← r.root.modify? (Entries.openTable? key) path.dropLast, path⟩

def Reading.arrayHeader? (r : Reading) (path : List String) : Option Reading := do
  let key ← path.getLast?
  return ⟨← r.root.modify? (Entries.appendTable? key) path.dropLast, path⟩

def Reading.define? (r : Reading) (path : List String) (d : Document) : Option Reading :=
  (r.root.modify? (Entries.insert? d path) r.header).map fun root => { r with root := root }

/-- A line, or the several lines of one definition, and the rest. -/
def line? (r : Reading) (s : List Char) : Option (Reading × List Char) :=
  match skipBlanks s with
  | [] => some (r, [])
  | '#' :: rest => (endLine? ('#' :: rest)).map fun rest => (r, rest)
  | '\n' :: rest => some (r, rest)
  | '[' :: '[' :: rest =>
    match key? rest.length rest with
    | some (path, ']' :: ']' :: rest) => do return (← r.arrayHeader? path, ← endLine? rest)
    | _ => none
  | '[' :: rest =>
    match key? rest.length rest with
    | some (path, ']' :: rest) => do return (← r.tableHeader? path, ← endLine? rest)
    | _ => none
  | s => do
    let (path, rest) ← keyEquals? s
    let (d, rest) ← value? (2 * rest.length + 2) rest
    return (← r.define? path d, ← endLine? rest)

def lines? : Nat → Reading → List Char → Option Reading
  | 0, r, s => if s.isEmpty then some r else none
  | fuel + 1, r, s =>
    if s.isEmpty then some r
    else
      match line? r s with
      | some (r, rest) => lines? fuel r rest
      | none => none

/-- The table that a text denotes. Every line consumes a character. -/
def parse? (s : String) : Option Document :=
  let chars := unifyLines (match s.toList with | '\ufeff' :: rest => rest | s => s)
  (lines? chars.length {} chars).map fun r => .table (Entries.toFields r.root)

end Viewfinder.Toml
