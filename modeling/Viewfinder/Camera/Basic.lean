import Viewfinder.Geometry.Size
import Viewfinder.Camera.Facing

/-!
# Cameras

What is known of a camera: how its sensor is mounted, and what the hardware reports of itself once
the camera is open.
-/

namespace Viewfinder

inductive FocusMode where
  | auto
  | continuousPicture
  | continuousVideo
  | fixed
deriving DecidableEq, Repr, Inhabited

namespace FocusMode

def name : FocusMode → String
  | auto => "Auto"
  | continuousPicture => "ContinuousPicture"
  | continuousVideo => "ContinuousVideo"
  | fixed => "Fixed"

instance : ToString FocusMode := ⟨name⟩

end FocusMode

/-- The side a sensor looks to and the clockwise angle at which it is mounted. -/
structure Sensor where
  facing : Facing
  mounting : UInt32
deriving DecidableEq, Repr, Inhabited

structure Capabilities where
  previewSizes : List Size
  maxFocusAreas : UInt32
  maxMeteringAreas : UInt32
  focusModes : List FocusMode
deriving DecidableEq, Repr, Inhabited

namespace Capabilities

def hasFocusAreas (c : Capabilities) : Bool := decide (0 < c.maxFocusAreas)

def hasMeteringAreas (c : Capabilities) : Bool := decide (0 < c.maxMeteringAreas)

/-- Whether a tap can steer the focus or the metering. -/
def steerable (c : Capabilities) : Bool := c.hasFocusAreas || c.hasMeteringAreas

def supports (c : Capabilities) (mode : FocusMode) : Bool := c.focusModes.contains mode

/-- The continuous mode to run while no tap is active. -/
def continuousMode? (c : Capabilities) : Option FocusMode :=
  [.continuousPicture, .continuousVideo].find? c.supports

end Capabilities

end Viewfinder
