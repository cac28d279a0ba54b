import Viewfinder.Image.Crop
import Viewfinder.Control.State

/-!
# Captures

One capture at a time: a job waits for the viewport of its session, leaves a ticket for a frame, and
turns the frame into a still with the geometry of the moment when it arrived. The camera can change
between any two of these, also while the frame is on its way. A job whose session ends before the
frame comes publishes nothing.
-/

namespace Viewfinder.CameraSystem

variable {σ : Type} [CameraService σ]

/-- Accept a capture of what the viewport shows in `visible`, if a camera is open and no capture is
outstanding. -/
def takePicture (s : CameraSystem σ) (visible : Rect) : Bool × CameraSystem σ :=
  match s.state, s.session?, s.capture with
  | .opened, some session, .idle =>
    let job := s.accepted + 1
    (true,
      { s with
        capture := .frameRequested
        accepted := job
        jobs := s.jobs ++ [⟨⟨job, session, visible⟩, .waiting⟩] })
  | _, _, _ => (false, s)

def setJobStage (s : CameraSystem σ) (job : Nat) (stage : JobStage) : CameraSystem σ :=
  { s with jobs := s.jobs.map fun j => if j.ticket.job = job then { j with stage := stage } else j }

def removeJob (s : CameraSystem σ) (job : Nat) : CameraSystem σ :=
  { s with jobs := s.jobs.filter (·.ticket.job ≠ job) }

/-- Let the device send the frame that is due on it. -/
def send (s : CameraSystem σ) (device : Nat) : CameraSystem σ :=
  match CameraService.fire device s.service with
  | (none, service) => { s with service := service }
  | (some (ticket, frame), service) =>
    { s with service := service, inFlight := s.inFlight ++ [⟨ticket, frame⟩] }

/-- Hand a frame over to the job that left the ticket for it. It counts only while the session of
the ticket is open, and is lost if its visible part cannot be computed. -/
def handOver (s : CameraSystem σ) (ticket : Ticket) (frame : Frame) : CameraSystem σ :=
  if s.session? ≠ some ticket.session then s
  else
    match s.orientation with
    | none => s
    | some o =>
      match visiblePart frame.size ticket.visible o.output with
      | none => s
      | some crop =>
        { s with capture := .frameReceived }.setJobStage ticket.job
          (.received ⟨frame, o.output, crop⟩)

def sent? (s : CameraSystem σ) (job : Nat) : Option SentFrame :=
  s.inFlight.find? (·.ticket.job = job)

/-- The frame that is on its way to a job arrives. -/
def arrive (s : CameraSystem σ) (job : Nat) : CameraSystem σ :=
  match s.sent? job with
  | none => s
  | some sent =>
    { s with inFlight := s.inFlight.filter (·.ticket.job ≠ job) }.handOver sent.ticket sent.frame

/-- The job ends and the next capture can be accepted. -/
def endJob (s : CameraSystem σ) (job : Nat) : CameraSystem σ :=
  { s.removeJob job with capture := .idle }

/-- Leave the ticket with the camera of its session, if that is still the open one. A crash there
takes the job down with it. -/
def requestFrame (s : CameraSystem σ) (ticket : Ticket) : CameraSystem σ :=
  match s.slot.filter (·.session = ticket.session) with
  | none => s.endJob ticket.job
  | some camera =>
    match CameraService.requestFrame camera.device ticket s.service with
    | (.done (), service) => { s with service := service }.setJobStage ticket.job .requested
    | (.refused _, service) => { s with service := service }.endJob ticket.job
    | (.crashed, service) => { s with service := service }.removeJob ticket.job

def jobReady (s : CameraSystem σ) (j : Job) : Bool :=
  match j.stage with
  | .waiting => s.wakes j.ticket.session
  | .requested =>
    !(CameraService.tickets s.service).contains j.ticket && (s.sent? j.ticket.job).isNone
  | _ => true

def jobStep (s : CameraSystem σ) (j : Job) : CameraSystem σ :=
  let job := j.ticket.job
  match j.stage with
  | .waiting =>
    if s.isOver j.ticket.session then s.endJob job
    else if s.viewport.isEmpty then s
    else s.setJobStage job .ready
  | .ready => s.requestFrame j.ticket
  | .requested => if s.jobReady j then s.endJob job else s
  | .received shot => { s with capture := .processing }.setJobStage job (.processing shot)
  | .processing shot =>
    match shot.frame.still shot.rotation shot.crop s.settings.jpegQuality with
    | .ok still => (s.endJob job).publish (.imageCaptured ⟨job, still, shot.rotation⟩)
    | .error _ => s.endJob job

end Viewfinder.CameraSystem
