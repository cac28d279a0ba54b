import Viewfinder.Camera.Service
import Viewfinder.Event.Listener
import Viewfinder.Rotation
import Viewfinder.Settings.Basic

/-!
# The state of a camera system

Users of the camera never wait: what they ask for is put in a queue, and one executor takes the
commands in order and makes the native calls. Beside it run the preparations that wait for a
viewport after an open, the capture jobs, and the bridges to listeners. A `CameraSystem` is the
state that all of them share, between two steps of any of them.
-/

namespace Viewfinder

/-- The camera that is open. Sessions are numbered by the successful opens, so that work begun in an
earlier one can be told. -/
structure OpenCamera where
  device : Nat
  sensor : Sensor
  capabilities : Capabilities
  session : Nat
deriving DecidableEq, Repr

/-- What the users asked for last. -/
structure Requests where
  started : Bool := false
  facing : Facing
  /-- Number of the newest request to open. -/
  newest : Nat := 0
deriving DecidableEq, Repr

inductive Command where
  | openCamera (facing : Facing) (request : Nat)
  | closeCamera
  | configurePreview (session : Nat)
  | turnDevice (turn : QuarterTurn)
  | tiltDevice (angle : UInt32)
  | applyFocus
  | barrier
deriving DecidableEq, Repr

/-- What the refusal of a native call means for the calls after it. -/
inductive OnRefusal where
  /-- Nothing. -/
  | ignore
  /-- The routine has failed, but runs on. -/
  | keep
  /-- The routine has failed and ends. -/
  | abort
deriving DecidableEq, Repr

structure NativeStep where
  call : DeviceCall
  onRefusal : OnRefusal
deriving DecidableEq, Repr

/-- Native calls to one device that are made in a row, and what came of those made. -/
structure Routine where
  device : Nat
  steps : List NativeStep
  failure : Option CameraError := none
  crashed : Bool := false
deriving DecidableEq, Repr

/-- What the executor does when a routine has ended. -/
inductive Continuation where
  /-- Put a configured device into the slot. -/
  | install (facing : Facing) (request : Nat) (camera : OpenCamera) (orientation : Orientation)
  /-- Report an open that failed after the device had been opened. -/
  | abandon (facing : Facing) (request : Nat) (e : CameraError)
  /-- Forget a camera that was released; `last` after which nothing is executed. -/
  | forget (facing : Facing) (last : Bool)
  | resize (camera : OpenCamera) (size : Size)
  | turn (orientation : Orientation)
  | focus (request : FocusRequest)
deriving DecidableEq, Repr

inductive Stage where
  | idle
  /-- About to open the camera natively. -/
  | opening (facing : Facing) (request : Nat)
  | native (routine : Routine) (next : Continuation)
  | stopped
  /-- A crash took the executor down; the commands that are queued, and all after them, are lost. -/
  | crashed
deriving DecidableEq, Repr

structure Executor where
  /-- Successful opens so far. -/
  sessions : Nat := 0
  turn : QuarterTurn := .natural
  angle : Option UInt32 := none
  /-- The session that was announced as ready. -/
  announced : Option Nat := none
  stage : Stage := .idle
deriving DecidableEq, Repr

/-- Progress of the outstanding capture. -/
inductive CaptureState where
  | idle
  | frameRequested
  | frameReceived
  | processing
deriving DecidableEq, Repr, Inhabited

def CaptureState.name : CaptureState → String
  | idle => "Idle"
  | frameRequested => "FrameRequested"
  | frameReceived => "FrameReceived"
  | processing => "Processing"

/-- A frame with the geometry in effect when it arrived. -/
structure Shot where
  frame : Frame
  rotation : UInt32
  crop : Rect
deriving DecidableEq, Repr

inductive JobStage where
  /-- For its session to have a viewport. -/
  | waiting
  /-- The session was open and had one; now the frame can be asked for. -/
  | ready
  /-- For the frame, after a ticket was left for it. -/
  | requested
  | received (shot : Shot)
  | processing (shot : Shot)
deriving DecidableEq, Repr

structure Job where
  ticket : Ticket
  stage : JobStage := .waiting
deriving DecidableEq, Repr

/-- A frame on its way from the device to the job whose ticket it was made for. -/
structure SentFrame where
  ticket : Ticket
  frame : Frame
deriving DecidableEq, Repr

structure CameraSystem (σ : Type) where
  settings : Settings
  service : σ
  bus : EventBus
  slot : Option OpenCamera := none
  state : HandleState := .closed
  viewport : Size := .zero
  orientation : Option Orientation := none
  /-- Preview size negotiated for the open camera. -/
  preview : Option Size := none
  requests : Requests
  /-- The newest tap that was not applied yet. -/
  tap : Option Tap := none
  queue : List Command := []
  executor : Executor := {}
  /-- Sessions whose preparation has not run yet. -/
  preparing : List Nat := []
  capture : CaptureState := .idle
  /-- Captures accepted so far. -/
  accepted : Nat := 0
  jobs : List Job := []
  /-- Frames that devices have sent and that did not arrive yet. -/
  inFlight : List SentFrame := []
  bridges : List Bridge := []
  /-- The bridge to the listener that is set. -/
  listening : Option Nat := none
  /-- Calls made to listeners, with the bridge that made each. -/
  heard : List (Nat × ListenerCall) := []
  /-- Barriers that were passed. -/
  barriers : Nat := 0
  /-- Whether a user still holds the camera. -/
  inUse : Bool := true

namespace CameraSystem

variable {σ : Type}

def session? (s : CameraSystem σ) : Option Nat := s.slot.map (·.session)

/-- Rotation of the preview that is in effect. -/
def display (s : CameraSystem σ) : UInt32 := (s.orientation.map Orientation.display).getD 0

/-- Whether commands may still come: from a user, or from a capture job. -/
def hasSenders (s : CameraSystem σ) : Bool := s.inUse || !s.jobs.isEmpty

def submit (s : CameraSystem σ) (c : Command) : CameraSystem σ := { s with queue := s.queue ++ [c] }

def publish (s : CameraSystem σ) (e : Event) : CameraSystem σ :=
  { s with bus := (s.bus.publish e).2 }

def enter (s : CameraSystem σ) (state : HandleState) (facing : Facing) : CameraSystem σ :=
  { s with state := state }.publish (.stateChanged s.state state facing)

def setStage (s : CameraSystem σ) (stage : Stage) : CameraSystem σ :=
  { s with executor := { s.executor with stage := stage } }

/-- Whether `session` is over: another one is open, or none. -/
def isOver (s : CameraSystem σ) (session : Nat) : Bool :=
  s.state != .opened || s.session? != some session

/-- Whether nobody waits at a barrier: it was passed, or no command will be executed any more. -/
def passed (s : CameraSystem σ) (barrier : Nat) : Bool :=
  decide (barrier ≤ s.barriers) || s.executor.stage == .crashed

/-- Whether what waits for `session` to have a viewport has to wait no longer. -/
def wakes (s : CameraSystem σ) (session : Nat) : Bool := s.isOver session || !s.viewport.isEmpty

end CameraSystem

end Viewfinder
