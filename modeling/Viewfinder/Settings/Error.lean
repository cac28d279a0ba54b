import Viewfinder.Numeric.Decimal
import Viewfinder.Settings.Basic
import Viewfinder.Text.Quoted

/-!
# What is wrong with settings

A limit that is not kept, a value that cannot be read as what its key asks for, or a file that is no
document at all.
-/

namespace Viewfinder

namespace Settings

/-- A value that a key was given. -/
inductive Found where
  | nothing
  | bool (value : Bool)
  | integer (value : Int)
  | unsigned (value : Nat)
  | number (value : Double)
  | text (value : String)
  | list
  | table
deriving DecidableEq, Repr

/-- What a key asks for. -/
inductive Wanted where
  | boolean
  | integer
  | nonnegative
  /-- A number that fits so many bits. -/
  | fitting (bits : Nat)
  | number
deriving DecidableEq, Repr

inductive Section where
  | camera
  | preview
  | focus
  | capture
  | system
deriving DecidableEq, Repr

/-- Values are shown between backquotes. -/
def shown (s : String) : String := "`" ++ s ++ "`"

def numberText : Double → String
  | .nan => "NaN"
  | x => x.text

/-- A value in a message about its key, where integers are told by their width. -/
def Found.name : Found → String
  | nothing => "unit value"
  | bool value => "boolean " ++ shown (toString value)
  | integer value => "64-bit integer " ++ shown (toString value)
  | unsigned value => "64-bit unsigned integer " ++ shown (toString value)
  | number value => "floating point " ++ shown (numberText value)
  | text value => "string " ++ Text.quoted value
  | list => "sequence"
  | table => "map"

/-- A value in a message about its section, where all integers are alike. -/
def Found.plainName : Found → String
  | integer value => "integer " ++ shown (toString value)
  | unsigned value => "integer " ++ shown (toString value)
  | found => found.name

def Wanted.name : Wanted → String
  | boolean => "a boolean"
  | integer => "an integer"
  | nonnegative => "an unsigned 64 bit or less integer"
  | fitting bits => s!"an unsigned {bits} bit integer"
  | number => "a floating point"

def Section.name : Section → String
  | camera => "camera"
  | preview => "preview"
  | focus => "focus"
  | capture => "capture"
  | system => "system"

/-- What a message calls the contents of a section. -/
def Section.contents : Section → String
  | camera => "CameraConfig"
  | preview => "PreviewConfig"
  | focus => "FocusConfig"
  | capture => "CaptureConfig"
  | system => "SystemConfig"

end Settings

open Settings in
inductive SettingsError where
  | invalid (fault : Fault)
  | message (text : String)
  /-- A value that is not what is wanted, with the path of its key and where it came from. -/
  | mistyped (found : Found) (wanted : Wanted) (key : String) (origin : Option String)
  | unknownFacing (text : String)
  | malformedFacing
  /-- A section that holds something else than keys. -/
  | notSection (found : Found) (part : Section)
  | malformedFile
deriving DecidableEq, Repr

namespace SettingsError

def text : SettingsError → String
  | invalid fault => fault.message
  | message text => text
  | mistyped found wanted key origin =>
    let place := match origin with
      | some origin => s!" in {origin}"
      | none => ""
    s!"invalid type: {found.name}, expected {wanted.name} for key {Settings.shown key}{place}"
  | unknownFacing text => s!"enum Facing does not have variant constructor {text}"
  | malformedFacing =>
    "value of enum Facing should be represented by either string or table with exactly one key"
  | notSection found part =>
    s!"invalid type: {found.plainName}, expected struct {part.contents}"
  | malformedFile => "the file cannot be read"

end SettingsError

end Viewfinder
