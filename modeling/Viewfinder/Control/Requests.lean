import Viewfinder.Control.Capture

/-!
# What users ask of a camera system

Every request returns at once. Those that concern the hardware are put in the queue.
-/

namespace Viewfinder.CameraSystem

variable {σ : Type} [CameraService σ]

def openRequest (s : CameraSystem σ) (facing : Facing) : CameraSystem σ :=
  let request := s.requests.newest + 1
  { s with requests := ⟨true, facing, request⟩ }.submit (.openCamera facing request)

/-- Open the camera of that facing, unless one is wanted already. -/
def start (s : CameraSystem σ) (facing : Facing) : CameraSystem σ :=
  if s.requests.started then s else s.openRequest facing

def pause (s : CameraSystem σ) : CameraSystem σ :=
  if s.requests.started then
    { s with requests := { s.requests with started := false } }.submit .closeCamera
  else s

/-- Close what is open and open the other camera, with nothing in between. -/
def swap (s : CameraSystem σ) : CameraSystem σ :=
  if CameraService.cameraCount s.service < 2 then s
  else
    let closed := if s.requests.started then s.submit .closeCamera else s
    closed.openRequest s.requests.facing.toggled

def setViewport (s : CameraSystem σ) (viewport : Size) : CameraSystem σ :=
  if s.viewport = viewport then s
  else
    let s := { s with viewport := viewport }
    match s.session? with
    | some session => s.submit (.configurePreview session)
    | none => s

def turnDevice (s : CameraSystem σ) (turn : QuarterTurn) : CameraSystem σ :=
  s.submit (.turnDevice turn)

/-- A reading of the orientation sensor; a negative one is none. -/
def tiltDevice (s : CameraSystem σ) (angle : Int32) : CameraSystem σ :=
  if angle < 0 then s else s.submit (.tiltDevice (angle.toUInt32 % 360))

/-- Focus on a tap, if the open camera can. Of several taps the newest counts. -/
def focusOn (s : CameraSystem σ) (tap : Tap) : Bool × CameraSystem σ :=
  match s.slot with
  | none => (false, s)
  | some camera =>
    if !camera.capabilities.steerable then (false, s)
    else
      let s' := { s with tap := some tap }
      (true, if s.tap.isNone then s'.submit .applyFocus else s')

def clearListener (s : CameraSystem σ) : CameraSystem σ :=
  match s.listening with
  | none => s
  | some id =>
    { s with
      listening := none
      bus := s.bus.detach id
      bridges := s.bridges.map fun b => if b.feed = id then { b with running := false } else b }

/-- Set a listener in place of the one before; the number of its bridge tells its calls. -/
def setListener (s : CameraSystem σ) : Nat × CameraSystem σ :=
  let (feed, bus) := s.bus.attach
  let s := { s with bus := bus }.clearListener
  (feed, { s with listening := some feed, bridges := s.bridges ++ [⟨feed, true⟩] })

/-- The number of a barrier that is passed when all commands before it have run. -/
def barrier (s : CameraSystem σ) : Nat × CameraSystem σ :=
  let waiting := (s.queue.filter (· = .barrier)).length
  (s.barriers + waiting + 1, s.submit .barrier)

/-- The last user lets go of the camera. -/
def drop (s : CameraSystem σ) : CameraSystem σ := { s.clearListener with inUse := false }

def isMultiCamera (s : CameraSystem σ) : Bool := 1 < CameraService.cameraCount s.service

end Viewfinder.CameraSystem
