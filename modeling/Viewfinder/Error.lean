import Viewfinder.Camera.Error
import Viewfinder.Image.Error
import Viewfinder.Settings.Error

/-!
# Errors that users see
-/

namespace Viewfinder

inductive UserError where
  | settings (e : SettingsError)
  | io (details : String)
  | camera (e : CameraError)
  | capture (e : CaptureError)
  | eventBus (details : String)
  | component (name details : String)
deriving DecidableEq, Repr

/-- The text of a failed publication. -/
def publishFailure (details : String) : String := s!"Failed to publish event: {details}"

namespace UserError

def message : UserError → String
  | settings e => s!"Configuration error: {e.text}"
  | io details => s!"IO error: {details}"
  | camera e => s!"Camera error: {e.message}"
  | capture e => s!"Capture error: {e.message}"
  | eventBus details => s!"Event bus error: {publishFailure details}"
  | component name details => s!"Component error in {name}: {details}"

end UserError

end Viewfinder
