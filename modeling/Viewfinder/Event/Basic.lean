import Viewfinder.Camera.Error
import Viewfinder.Camera.FocusArea
import Viewfinder.Image.Still

/-!
# Events

What the camera tells the outside world, in the words that a log shows.
-/

namespace Viewfinder

/-- States of the camera handle. -/
inductive HandleState where
  | closed
  | opening
  | opened
  | closing
deriving DecidableEq, Repr, Inhabited

namespace HandleState

def name : HandleState → String
  | closed => "Closed"
  | opening => "Opening"
  | opened => "Open"
  | closing => "Closing"

instance : ToString HandleState := ⟨name⟩

end HandleState

/-- A still with the job that asked for it and the rotation that was applied. -/
structure CapturedImage where
  job : Nat
  still : Still
  rotation : UInt32
deriving DecidableEq, Repr, Inhabited

inductive Event where
  | stateChanged (before after : HandleState) (facing : Facing)
  | ready (facing : Facing) (preview : Size) (display : UInt32)
  | failed (facing : Facing) (reason : FailureReason)
  | orientationChanged (display output : UInt32)
  | focusRequested (request : FocusRequest)
  | imageCaptured (image : CapturedImage)
deriving DecidableEq, Repr, Inhabited

namespace Event

def kind : Event → String
  | stateChanged .. => "state_changed"
  | ready .. => "ready"
  | failed .. => "camera_failed"
  | orientationChanged .. => "orientation_changed"
  | focusRequested .. => "focus_requested"
  | imageCaptured .. => "image_captured"

def description : Event → String
  | stateChanged before after facing => s!"{facing} camera {before} -> {after}"
  | ready facing preview _ => s!"{facing} camera ready with preview {preview}"
  | failed facing reason => s!"{facing} camera failed: {reason.message}"
  | orientationChanged display output => s!"Orientation changed: display {display} output {output}"
  | focusRequested request => s!"Focus requested at {request.focus}"
  | imageCaptured image =>
    let still := image.still
    s!"Image {image.job} captured ({still.size}, {still.bytes.size} bytes)"

/-- Whether a listener is called for the event, so that it must not be lost. -/
def forListener : Event → Bool
  | ready .. | failed .. | imageCaptured .. => true
  | _ => false

end Event

end Viewfinder
