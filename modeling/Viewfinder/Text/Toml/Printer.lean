import Viewfinder.Numeric.Decimal
import Viewfinder.Text.Toml.Reader

/-!
# Writing TOML

A document of sections: a header for each, with a line for each of its keys, and an empty line
between two sections.
-/

namespace Viewfinder.Toml

def escape (c : Char) : String :=
  match c with
  | '"' => "\\\""
  | '\\' => "\\\\"
  | '\n' => "\\n"
  | '\r' => "\\r"
  | '\t' => "\\t"
  | c => if isTextChar c then c.toString else "\\u" ++ Json.hexDigits 4 c.toNat

def quote (s : String) : String := "\"" ++ String.join (s.toList.map escape) ++ "\""

def writtenKey (key : String) : String :=
  if !key.isEmpty && key.toList.all isBareChar then key else quote key

mutual

/-- A value on one line; what has no value is an empty table. -/
def inline : Document → String
  | .null => "\x7b\x7d"
  | .bool value => if value then "true" else "false"
  | .integer value => toString value
  | .number value => value.text
  | .text value => quote value
  | .list items => "[" ++ inlineItems items ++ "]"
  | .table fields => "\x7b" ++ inlineFields fields ++ "\x7d"

def inlineItems : List Document → String
  | [] => ""
  | [item] => inline item
  | item :: items => inline item ++ ", " ++ inlineItems items

def inlineFields : List (String × Document) → String
  | [] => ""
  | [(key, value)] => " " ++ writtenKey key ++ " = " ++ inline value ++ " "
  | (key, value) :: fields =>
    " " ++ writtenKey key ++ " = " ++ inline value ++ "," ++ inlineFields fields

end

def line (key : String) (value : Document) : String :=
  writtenKey key ++ " = " ++ inline value ++ "\n"

/-- A section under its header. -/
def part (name : String) (fields : List (String × Document)) : String :=
  "[" ++ writtenKey name ++ "]\n" ++ String.join (fields.map fun f => line f.1 f.2)

def render (parts : List (String × List (String × Document))) : String :=
  "\n".intercalate (parts.map fun p => part p.1 p.2)

end Viewfinder.Toml
