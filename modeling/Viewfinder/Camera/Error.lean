import Viewfinder.Camera.Facing

/-!
# Refusals of the camera hardware

Each way in which a native call is refused, and why an open failed as a listener is told it.
-/

namespace Viewfinder

inductive CameraError where
  | noSuchCamera (facing : Facing)
  | openFailed (facing : Facing) (details : String)
  | inUse
  | notOpen
  | parameters (details : String)
  | preview (details : String)
  | release (details : String)
deriving DecidableEq, Repr, Inhabited

namespace CameraError

def message : CameraError → String
  | noSuchCamera facing => s!"No {facing} camera present"
  | openFailed facing details => s!"Failed to open {facing} camera: {details}"
  | inUse => "Camera is already in use by another handle"
  | notOpen => "Camera is not open"
  | parameters details => s!"Camera parameter update failed: {details}"
  | preview details => s!"Camera preview error: {details}"
  | release details => s!"Camera release failed: {details}"

end CameraError

/-- Why a camera could not be opened. -/
inductive FailureReason where
  | noCamera
  | unavailable (details : String)
deriving DecidableEq, Repr, Inhabited

namespace FailureReason

def ofError : CameraError → FailureReason
  | .noSuchCamera _ => noCamera
  | e => unavailable e.message

def message : FailureReason → String
  | noCamera => "no camera"
  | unavailable details => s!"camera unavailable: {details}"

def details? : FailureReason → Option String
  | noCamera => none
  | unavailable details => some details

end FailureReason

end Viewfinder
