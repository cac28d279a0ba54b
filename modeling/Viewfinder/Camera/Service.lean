import Viewfinder.Camera.Basic
import Viewfinder.Camera.Error
import Viewfinder.Frame
import Viewfinder.Geometry.Rect

/-!
# The platform's camera service

What the rest of the library asks of the hardware. A service opens devices and numbers them, a
device takes calls, and a frame is asked for by leaving a ticket with it: the service hands the
ticket back with a frame, or drops it.
-/

namespace Viewfinder

/-- How a native call came back, if it did. -/
inductive Outcome (α : Type) where
  | done (value : α)
  | refused (e : CameraError)
  | crashed
deriving DecidableEq, Repr

/-- The calls that an open device takes, requests for frames apart. -/
inductive DeviceCall where
  | setPreviewSize (size : Size)
  | setDisplayRotation (degrees : UInt32)
  | setOutputRotation (degrees : UInt32)
  | setFocusMode (mode : FocusMode)
  | setFocusAreas (focus metering : Option Rect)
  | autoFocus
  | cancelAutoFocus
  | startPreview
  | stopPreview
  | release
deriving DecidableEq, Repr

/-- What a capture leaves with a device: which job waits, in which session it was accepted, and the
rectangle of the viewport that it is to show. -/
structure Ticket where
  job : Nat
  session : Nat
  visible : Rect
deriving DecidableEq, Repr, Inhabited

class CameraService (σ : Type) where
  cameraCount : σ → Nat
  sensor? : σ → Facing → Option Sensor
  acquire : Facing → σ → Outcome Nat × σ
  capabilities : σ → Nat → Capabilities
  previewSize : σ → Nat → Size
  call : Nat → DeviceCall → σ → Outcome Unit × σ
  requestFrame : Nat → Ticket → σ → Outcome Unit × σ
  /-- The tickets that may still be handed back. -/
  tickets : σ → List Ticket
  /-- Devices that are about to deliver a frame by themselves. -/
  due : σ → List Nat
  fire : Nat → σ → Option (Ticket × Frame) × σ

end Viewfinder
