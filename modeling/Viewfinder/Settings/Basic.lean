import Viewfinder.Camera.FocusArea

/-!
# Settings

The values that a user may set, their defaults, and the limits that they have to keep.
-/

namespace Viewfinder

structure Settings where
  defaultFacing : Facing := .back
  /-- Start on the front camera of a device with more than one. -/
  preferFront : Bool := true
  aspectTolerance : Double := Binary.round .double (1 / 10)
  areaDivisor : UInt32 := 8
  meteringScale : Single := Binary.round .single (3 / 2)
  jpegQuality : UInt8 := 80
  eventCapacity : UInt64 := 64
deriving DecidableEq, Repr

namespace Settings

inductive Fault where
  | tolerance
  | areaDivisor
  | meteringScale
  | jpegQuality
  | eventCapacity
deriving DecidableEq, Repr

def Fault.message : Fault → String
  | tolerance => "Preview aspect_tolerance must be greater than 0"
  | areaDivisor => "Focus area_divisor must be greater than 0"
  | meteringScale => "Focus metering_scale must be at least 1.0"
  | jpegQuality => "Capture jpeg_quality must be between 1 and 100"
  | eventCapacity => "Event bus capacity must be greater than 0"

/-- The first limit that is not kept. NaN keeps none. -/
def fault? (s : Settings) : Option Fault :=
  if ¬0 < s.aspectTolerance then some .tolerance
  else if s.areaDivisor = 0 then some .areaDivisor
  else if ¬1 ≤ s.meteringScale then some .meteringScale
  else if s.jpegQuality = 0 ∨ 100 < s.jpegQuality then some .jpegQuality
  else if s.eventCapacity = 0 then some .eventCapacity
  else none

def focusMapper (s : Settings) : FocusMapper := ⟨s.areaDivisor, s.meteringScale⟩

/-- The settings of which all limits are kept. -/
def Valid (s : Settings) : Prop :=
  0 < s.aspectTolerance ∧ s.areaDivisor ≠ 0 ∧ 1 ≤ s.meteringScale ∧
    (s.jpegQuality ≠ 0 ∧ s.jpegQuality ≤ 100) ∧ s.eventCapacity ≠ 0

theorem fault?_eq_none_iff (s : Settings) : s.fault? = none ↔ s.Valid := by
  have quality : ¬100 < s.jpegQuality ↔ s.jpegQuality ≤ 100 := UInt8.not_lt
  unfold fault? Valid
  grind

end Settings

end Viewfinder
