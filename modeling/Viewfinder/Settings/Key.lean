import Viewfinder.Settings.Error
import Viewfinder.Text.Document
import Viewfinder.Text.Toml.Printer

/-!
# Keys of settings

How settings are arranged in a file: five sections, each with its keys in a fixed order.
-/

namespace Viewfinder.Settings

inductive Key where
  | defaultFacing
  | preferFront
  | aspectTolerance
  | areaDivisor
  | meteringScale
  | jpegQuality
  | eventCapacity
deriving DecidableEq, Repr

def Key.name : Key → String
  | defaultFacing => "default_facing"
  | preferFront => "prefer_front_when_available"
  | aspectTolerance => "aspect_tolerance"
  | areaDivisor => "area_divisor"
  | meteringScale => "metering_scale"
  | jpegQuality => "jpeg_quality"
  | eventCapacity => "event_bus_capacity"

namespace Section

def all : List Section := [camera, preview, focus, capture, system]

def keys : Section → List Key
  | camera => [.defaultFacing, .preferFront]
  | preview => [.aspectTolerance]
  | focus => [.areaDivisor, .meteringScale]
  | capture => [.jpegQuality]
  | system => [.eventCapacity]

end Section

/-- The value of a key as a file holds it. -/
def value (s : Settings) : Key → Document
  | .defaultFacing => .text s.defaultFacing.name
  | .preferFront => .bool s.preferFront
  | .aspectTolerance => .number s.aspectTolerance
  | .areaDivisor => .integer s.areaDivisor.toNat
  | .meteringScale => .number (s.meteringScale.convert .double)
  | .jpegQuality => .integer s.jpegQuality.toNat
  | .eventCapacity => .integer s.eventCapacity.toNat

/-- All sections with the values of their keys. -/
def toFields (s : Settings) : List (String × List (String × Document)) :=
  Section.all.map fun part => (part.name, part.keys.map fun key => (key.name, s.value key))

/-- The settings as a file holds them. -/
def toToml (s : Settings) : String := Toml.render s.toFields

end Viewfinder.Settings
