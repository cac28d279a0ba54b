import Viewfinder.Camera.Simulator
import Viewfinder.Control.Build

/-!
# A tour of the camera

A visitor takes two simulated cameras through all they can do: opens one, focuses on the middle of
the viewport and takes a picture, swaps the cameras so many times, and closes. The visitor goes on
when the event has come that a phase waits for; `Tour.step` is what the visitor does with one event,
and between any two of them the system may make any of its own steps. `Tour.play` is the run in
which the visitor is as quick as can be.
-/

namespace Viewfinder

structure TourPlan where
  viewport : Size
  degrees : UInt32
  swaps : Nat
deriving DecidableEq, Repr

/-- The whole viewport; its sides wrap to signed numbers. -/
def TourPlan.visible (p : TourPlan) : Rect :=
  .ofSides p.viewport.width.toInt32 p.viewport.height.toInt32

def TourPlan.middle (p : TourPlan) : Tap where
  x := Binary.ofInt p.viewport.width.toNat / 2
  y := Binary.ofInt p.viewport.height.toNat / 2

inductive TourError where
  | notBuilt (e : UserError)
  | rotation (degrees : UInt32)
  | timedOut
  | cameraFailed (facing : Facing) (reason : FailureReason)
  | rejected
  | lagged (lost : Nat)
  | closed
deriving DecidableEq, Repr

def TourError.message : TourError → String
  | notBuilt e => e.message
  | rotation degrees => s!"Unsupported device rotation {degrees}"
  | timedOut => "Timed out waiting for camera event"
  | cameraFailed facing reason => s!"{facing} camera failed: {reason.message}"
  | rejected => "Capture request was rejected"
  | lagged lost => s!"channel lagged by {lost}"
  | closed => "channel closed"

/-- What the visitor waits for. -/
inductive TourPhase where
  /-- The first camera to be ready. -/
  | opening
  | capturing
  /-- The picture to be put away. -/
  | captured (image : CapturedImage)
  /-- The other camera to be ready, with so many swaps left after that. -/
  | swapping (left : Nat)
  /-- All commands up to a barrier to have run. -/
  | closing (barrier : Nat)
  | finished
  | failed (e : TourError)
deriving DecidableEq, Repr

structure Tour where
  plan : TourPlan
  system : CameraSystem (Simulator Ticket)
  subscriber : Nat
  phase : TourPhase := .opening

namespace Tour

def fail (t : Tour) (e : TourError) : Tour := { t with phase := .failed e }

/-- Listen to a system, tell it how it is held and how large the viewport is, and ask it to start.
-/
def arrive (plan : TourPlan) (turn : QuarterTurn) (system : CameraSystem (Simulator Ticket)) :
    Tour :=
  let system := system.setListener.2
  let (subscriber, bus) := system.bus.subscribe
  let system := { system with bus := bus }
  let system := (system.turnDevice turn).setViewport plan.viewport
  { plan := plan, system := system.start system.requests.facing, subscriber := subscriber }

/-- Build the system and begin. -/
def begin? (settings : Settings) (plan : TourPlan) : Except TourError Tour :=
  match CameraSystem.build settings (some (Simulator.ofCameras Simulator.dual)) none with
  | .error e => .error (.notBuilt e)
  | .ok system =>
    match QuarterTurn.ofDegrees? plan.degrees with
    | none => .error (.rotation plan.degrees)
    | some turn => .ok (arrive plan turn system)

/-- Focus and take the picture. -/
def capture (t : Tour) : Tour :=
  let (_, system) := t.system.focusOn t.plan.middle
  match system.takePicture t.plan.visible with
  | (true, system) => { t with system := system, phase := .capturing }
  | (false, system) => { t with system := system }.fail .rejected

/-- Swap if there are swaps left, otherwise close. -/
def moveOn (t : Tour) : Nat → Tour
  | left + 1 => { t with system := t.system.swap, phase := .swapping left }
  | 0 =>
    let (barrier, system) := t.system.pause.barrier
    { t with system := system, phase := .closing barrier }

/-- Go on after the picture was put away. -/
def proceed (t : Tour) : Tour :=
  match t.phase with
  | .captured _ => t.moveOn t.plan.swaps
  | _ => t

def hear (t : Tour) (e : Event) : Tour :=
  match e, t.phase with
  | .failed facing reason, _ => t.fail (.cameraFailed facing reason)
  | .ready .., .opening => t.capture
  | .imageCaptured image, .capturing => { t with phase := .captured image }
  | .ready .., .swapping left => t.moveOn left
  | _, _ => t

/-- Whether the visitor waits for an event. -/
def listens (t : Tour) : Bool :=
  match t.phase with
  | .opening | .capturing | .swapping _ => true
  | _ => false

/-- Whether the visitor can go on. -/
def ready (t : Tour) : Bool :=
  match t.phase with
  | .closing barrier => t.system.passed barrier
  | _ => t.listens && (t.system.bus.receive t.subscriber).1 != .empty

/-- The visitor goes on. -/
def step (t : Tour) : Tour :=
  match t.phase with
  | .closing barrier => if t.system.passed barrier then { t with phase := .finished } else t
  | _ =>
    if !t.listens then t
    else
      match t.system.bus.receive t.subscriber with
      | (.event e, bus) => { t with system := { t.system with bus := bus } }.hear e
      | (.lagged lost, bus) => { t with system := { t.system with bus := bus } }.fail (.lagged lost)
      | (.empty, _) => t
      | _ => t.fail .closed

/-- Whether nothing is left to wait for. -/
def pauses (t : Tour) : Bool :=
  match t.phase with
  | .captured _ | .finished | .failed _ => true
  | _ => false

/-- Run until the visitor waits for nothing: the visitor first, then the task that has been ready
for longest. A wait that nothing can end is given up. -/
def play : Nat → List Task → Tour → Tour
  | 0, _, t => t.fail .timedOut
  | fuel + 1, order, t =>
    if t.pauses then t
    else if t.ready then play fuel order t.step
    else
      let s := Schedule.refresh ⟨t.system, order⟩
      if s.order.isEmpty then t.fail .timedOut
      else
        let s := s.advance
        play fuel s.order { t with system := s.system }

/-- Steps enough for the rest of a tour: no wait takes as many as a thousand. -/
def fuel (t : Tour) : Nat := 1000 * (t.plan.swaps + 3)

/-- Open a camera and take the picture. -/
def visit (settings : Settings) (plan : TourPlan) : Except TourError (Tour × CapturedImage) := do
  let t ← begin? settings plan
  let t := t.play t.fuel []
  match t.phase with
  | .captured image => return (t, image)
  | .failed e => throw e
  | _ => throw .timedOut

/-- Swap the cameras and close; what the service counted. -/
def finish (t : Tour) : Except TourError (Simulator Ticket) :=
  let t := t.proceed
  let t := t.play t.fuel []
  match t.phase with
  | .finished => .ok t.system.service
  | .failed e => .error e
  | _ => .error .timedOut

end Tour

end Viewfinder
