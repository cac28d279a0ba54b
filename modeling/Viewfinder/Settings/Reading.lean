import Viewfinder.Settings.Layers
import Viewfinder.Text.Number

/-!
# Reading layered settings

Values are taken liberally: a number may stand for a truth value, a text for either, and a number
with a fraction for an integer. What cannot be taken is reported with the path of its key and, if it
has one, its origin. A section is a table of keys, or a list of the values in the order of the keys.
-/

namespace Viewfinder.Settings

def Found.ofDocument : Document → Found
  | .null => .nothing
  | .bool b => .bool b
  | .integer n => .integer n
  | .number x => .number x
  | .text s => .text s
  | .list _ => .list
  | .table _ => .table

namespace Layered

def found : Layered → Found
  | value d _ => .ofDocument d
  | table _ => .table

def origin? : Layered → Option String
  | value _ origin => origin
  | table _ => none

/-- A value that has to be something else, at the path `key`. -/
def refuse {α : Type} (t : Layered) (wanted : Wanted) (key : String) : Except SettingsError α :=
  .error (.mistyped t.found wanted key t.origin?)

end Layered

/-- The words for a truth value, in lower case. -/
def truthWord? (word : String) : Option Bool :=
  if word ∈ ["true", "on", "yes"] then some true
  else if word ∈ ["false", "off", "no"] then some false
  else none

/-- A truth value. A text that is none is reported in lower case. -/
def readBool (key : String) (t : Layered) : Except SettingsError Bool :=
  match t with
  | .value (.bool b) _ => .ok b
  | .value (.integer n) _ => .ok (n ≠ 0)
  | .value (.number x) _ => .ok (x.rat? ≠ some 0)
  | .value (.text s) origin =>
    let word := Text.lowercase s
    if word = "1" then .ok true
    else if word = "0" then .ok false
    else
      match truthWord? word with
      | some b => .ok b
      | none => (Layered.value (.text word) origin).refuse .boolean key
  | t => t.refuse .boolean key

/-- A natural number of 64 bits. A fraction is rounded, half away from zero. -/
def readNatural (key : String) (t : Layered) : Except SettingsError Nat :=
  match t with
  | .value (.integer n) _ => if n < 0 then t.refuse .nonnegative key else .ok n.toNat
  | .value (.bool b) _ => .ok b.toNat
  | .value (.number x) _ => .ok (x.toIntWithin Rounding.awayFromZero 0 (UInt64.size - 1)).toNat
  | .value (.text s) _ =>
    match truthWord? (Text.lowercase s) with
    | some b => .ok b.toNat
    | none =>
      match (Text.natural? s).filter (· < UInt64.size) with
      | some n => .ok n
      | none => t.refuse .integer key
  | t => t.refuse .integer key

/-- A natural number of fewer bits. Where one that is too great came from is not reported. -/
def readFitting (bits : Nat) (key : String) (t : Layered) : Except SettingsError Nat := do
  let n ← readNatural key t
  if n < 1 <<< bits then return n else throw (.mistyped (.unsigned n) (.fitting bits) key none)

def readNumber (key : String) (t : Layered) : Except SettingsError Double :=
  match t with
  | .value (.number x) _ => .ok x
  | .value (.integer n) _ => .ok (Binary.ofInt n)
  | .value (.bool b) _ => .ok (Binary.ofInt b.toNat)
  | .value (.text s) _ =>
    match truthWord? (Text.lowercase s) with
    | some b => .ok (Binary.ofInt b.toNat)
    | none =>
      match Text.double? s with
      | some x => .ok x
      | none => t.refuse .number key
  | t => t.refuse .number key

def facingNamed (s : String) : Except SettingsError Facing :=
  match [Facing.front, .back].find? (·.name = Text.lowercase s) with
  | some facing => .ok facing
  | none => .error (.unknownFacing s)

/-- A facing by its name, which may also be the one key of a table. -/
def readFacing (_key : String) : Layered → Except SettingsError Facing
  | .value (.text s) _ => facingNamed s
  | .table [(s, _)] => facingNamed s
  | .value (.table [(s, _)]) _ => facingNamed s
  | _ => .error .malformedFacing

/-- The value of a key in its section, with its path, if it is there. -/
def find (part : Section) (key : Key) : Layered → Except SettingsError (Option (String × Layered))
  | .table es =>
    .ok ((Layered.Entries.get? es key.name).map fun t => (s!"{part.name}.{key.name}", t))
  | .value (.list items) origin =>
    let position := part.keys.idxOf key
    .ok (items[position]?.map fun d => (s!"{part.name}[{position}]", .value d origin))
  | t => .error (.notSection t.found part)

/-- Read a key. One that is not set keeps its default. -/
def readKey {α : Type} (es : Layered.Entries) (part : Section) (key : Key)
    (read : String → Layered → Except SettingsError α) (default : α) : Except SettingsError α :=
  match es.get? part.name with
  | none => .ok default
  | some t => do
    match ← find part key t with
    | none => return default
    | some (path, t) => read path t

def ofEntries (es : Layered.Entries) : Except SettingsError Settings := do
  let d : Settings := {}
  return {
    defaultFacing := ← readKey es .camera .defaultFacing readFacing d.defaultFacing
    preferFront := ← readKey es .camera .preferFront readBool d.preferFront
    aspectTolerance := ← readKey es .preview .aspectTolerance readNumber d.aspectTolerance
    areaDivisor :=
      UInt32.ofNat (← readKey es .focus .areaDivisor (readFitting 32) d.areaDivisor.toNat)
    meteringScale :=
      (← readKey es .focus .meteringScale readNumber
        (d.meteringScale.convert .double)).convert .single
    jpegQuality :=
      UInt8.ofNat (← readKey es .capture .jpegQuality (readFitting 8) d.jpegQuality.toNat)
    eventCapacity :=
      UInt64.ofNat (← readKey es .system .eventCapacity readNatural d.eventCapacity.toNat) }

end Viewfinder.Settings
