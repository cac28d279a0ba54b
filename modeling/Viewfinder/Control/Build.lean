import Viewfinder.Error
import Viewfinder.Control.Requests
import Viewfinder.Control.Tasks

/-!
# Building a camera system
-/

namespace Viewfinder.CameraSystem

variable {σ : Type} [CameraService σ]

/-- The camera that a user is shown first. -/
def initialFacing (settings : Settings) (cameraCount : Nat) : Facing :=
  if settings.preferFront && 1 < cameraCount then .front else settings.defaultFacing

/-- A system at rest, for settings that keep all limits. A capacity for the event bus takes the
place of the one that is set. -/
def build (settings : Settings) (service : Option σ) (capacity : Option Nat) :
    Except UserError (CameraSystem σ) :=
  match settings.fault?, service with
  | some fault, _ => .error (.settings (.invalid fault))
  | none, none => .error (.component "quick_camera_builder" "Camera backend must be specified")
  | none, some service =>
    .ok
      { settings := settings
        service := service
        bus := .ofCapacity (capacity.getD settings.eventCapacity.toNat)
        requests := { facing := initialFacing settings (CameraService.cameraCount service) } }

end Viewfinder.CameraSystem
