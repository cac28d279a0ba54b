import Viewfinder.Proofs.Completion

/-!
# Where images come from

Every image goes back to a capture that was accepted in some session and to a frame that the camera
of this session sent and that was handed over while it was still open; how the image is turned and
cut was settled when it was handed over (`Origin`). A frame that arrives after the end of its
session leads to no image, whatever camera is open by then.
-/

namespace Viewfinder.CameraSystem

variable {s t : CameraSystem (Simulator Ticket)} {held : Option Nat} {m : Move}

/-! ## The preview of the open camera -/

section

variable {settings : Settings} {cameras : List CameraSpec} {capacity : Nat} {facing : Facing}
  {moves : List Move}

end

end Viewfinder.CameraSystem
