import Viewfinder.Preview.Negotiation
import Viewfinder.Control.State

/-!
# The executor

Commands run one at a time. Those that need the hardware start a routine of native calls and go on
when it has ended, so that a step is what happens between two points at which the executor waits:
the start of a command, one native call, or the end of a routine.
-/

namespace Viewfinder

namespace Routine

variable {σ : Type} [CameraService σ]

/-- Make the next call. -/
def perform (r : Routine) (service : σ) : Routine × σ :=
  match r.steps with
  | [] => (r, service)
  | step :: rest =>
    match CameraService.call r.device step.call service with
    | (.done (), service) => ({ r with steps := rest }, service)
    | (.crashed, service) => ({ r with steps := [], crashed := true }, service)
    | (.refused e, service) =>
      match step.onRefusal with
      | .ignore => ({ r with steps := rest }, service)
      | .keep => ({ r with steps := rest, failure := r.failure.or (some e) }, service)
      | .abort => ({ r with steps := [], failure := some e }, service)

/-- What came of a routine that has ended; nothing if it crashed. -/
def result? (r : Routine) : Option (Except CameraError Unit) :=
  if r.crashed then none
  else
    match r.failure with
    | some e => some (.error e)
    | none => some (.ok ())

/-- Continuous focus, both rotations, then the preview. -/
def configure (device : Nat) (capabilities : Capabilities) (o : Orientation) : Routine where
  device := device
  steps :=
    (capabilities.continuousMode?.map fun mode => ⟨.setFocusMode mode, .ignore⟩).toList ++
    [⟨.setDisplayRotation o.display, .abort⟩, ⟨.setOutputRotation o.output, .ignore⟩,
      ⟨.startPreview, .abort⟩]

def release (device : Nat) : Routine where
  device := device
  steps := [⟨.stopPreview, .ignore⟩, ⟨.release, .ignore⟩]

/-- Stop, resize and start again, even if the size was refused. -/
def resize (device : Nat) (current size : Size) : Routine where
  device := device
  steps :=
    if current = size then []
    else [⟨.stopPreview, .ignore⟩, ⟨.setPreviewSize size, .keep⟩, ⟨.startPreview, .keep⟩]

def turn (device : Nat) (displayChanged outputChanged : Bool) (o : Orientation) : Routine where
  device := device
  steps :=
    (if displayChanged then
      [⟨.stopPreview, .ignore⟩, ⟨.setDisplayRotation o.display, .ignore⟩, ⟨.startPreview, .ignore⟩]
    else []) ++
    if outputChanged then [⟨.setOutputRotation o.output, .ignore⟩] else []

/-- Cancel what runs, set the areas that the camera has, and focus once. -/
def focus (device : Nat) (capabilities : Capabilities) (request : FocusRequest) : Routine where
  device := device
  steps :=
    let focus := if capabilities.hasFocusAreas then some request.focus else none
    let metering := if capabilities.hasMeteringAreas then some request.metering else none
    [⟨.cancelAutoFocus, .ignore⟩] ++
    (if focus.isSome && capabilities.supports .auto then [⟨.setFocusMode .auto, .abort⟩] else []) ++
    [⟨.setFocusAreas focus metering, .abort⟩, ⟨.autoFocus, .abort⟩]

end Routine

namespace CameraSystem

variable {σ : Type} [CameraService σ]

/-- Take back that the camera is wanted, unless something newer was asked for. -/
def withdraw (s : CameraSystem σ) (request : Nat) : CameraSystem σ :=
  if s.requests.started && s.requests.newest == request then
    { s with requests := { s.requests with started := false } }
  else s

def failOpen (s : CameraSystem σ) (facing : Facing) (request : Nat) (e : CameraError) :
    CameraSystem σ :=
  (((s.withdraw request).enter .closed facing).publish (.failed facing (.ofError e))).setStage .idle

def resolveOrientation (s : CameraSystem σ) (sensor : Sensor) : Orientation :=
  .resolve sensor.mounting sensor.facing s.executor.turn s.executor.angle

/-- Open the camera natively and start to configure it. -/
def openNatively (s : CameraSystem σ) (facing : Facing) (request : Nat) : CameraSystem σ :=
  match CameraService.sensor? s.service facing with
  | none => s.failOpen facing request (.noSuchCamera facing)
  | some sensor =>
    match CameraService.acquire facing s.service with
    | (.refused e, service) => { s with service := service }.failOpen facing request e
    | (.crashed, service) =>
      { s with service := service }.failOpen facing request
        (.openFailed facing "open task did not complete")
    | (.done device, service) =>
      let capabilities := CameraService.capabilities service device
      let o := s.resolveOrientation sensor
      { s with service := service }.setStage (.native (.configure device capabilities o)
        (.install facing request ⟨device, sensor, capabilities, s.executor.sessions + 1⟩ o))

def abandon (s : CameraSystem σ) (device : Nat) (facing : Facing) (request : Nat)
    (e : CameraError) : CameraSystem σ :=
  s.setStage (.native (.release device) (.abandon facing request e))

/-- The configured device becomes the open camera of a new session, which has to be prepared. -/
def install (s : CameraSystem σ) (facing : Facing) (camera : OpenCamera) (o : Orientation) :
    CameraSystem σ :=
  let opened :=
    { s with
      slot := some camera
      orientation := some o
      preparing := s.preparing ++ [camera.session]
      executor := { s.executor with sessions := camera.session, stage := .idle } }
  (opened.enter .opened facing).publish (.orientationChanged o.display o.output)

/-- Take the open camera out of the slot and start to release it. -/
def beginClose (s : CameraSystem σ) (last : Bool) : CameraSystem σ :=
  match s.slot with
  | none => s.setStage (if last then .stopped else .idle)
  | some camera =>
    let facing := camera.sensor.facing
    ({ s with slot := none }.enter .closing facing).setStage
      (.native (.release camera.device) (.forget facing last))

def forget (s : CameraSystem σ) (facing : Facing) (last : Bool) : CameraSystem σ :=
  let cleared :=
    { s with
      orientation := none
      preview := none
      tap := none
      executor := { s.executor with announced := none } }
  (cleared.enter .closed facing).setStage (if last then .stopped else .idle)

/-- Announce that the preview runs, once in a session. -/
def announce (s : CameraSystem σ) (camera : OpenCamera) (size : Size) : CameraSystem σ :=
  if s.executor.announced = some camera.session then s
  else
    { s with executor := { s.executor with announced := some camera.session } }.publish
      (.ready camera.sensor.facing size s.display)

/-- Negotiate the preview of a session that is still open, once there is a viewport. -/
def configurePreview (s : CameraSystem σ) (session : Nat) : CameraSystem σ :=
  match s.slot with
  | none => s
  | some camera =>
    if camera.session ≠ session then s
    else
      match Preview.negotiate? camera.capabilities.previewSizes s.viewport
        s.settings.aspectTolerance with
      | none => s
      | some size =>
        if s.preview = some size then s.announce camera size
        else
          let current := CameraService.previewSize s.service camera.device
          s.setStage (.native (.resize camera.device current size) (.resize camera size))

/-- Resolve both rotations anew and apply those that changed. -/
def refreshOrientation (s : CameraSystem σ) : CameraSystem σ :=
  match s.slot with
  | none => s
  | some camera =>
    let o := s.resolveOrientation camera.sensor
    let displayChanged := s.orientation.map Orientation.display != some o.display
    let outputChanged := s.orientation.map Orientation.output != some o.output
    let s := { s with orientation := some o }
    if !displayChanged && !outputChanged then s
    else s.setStage (.native (.turn camera.device displayChanged outputChanged o) (.turn o))

/-- Take the newest tap and focus on it, if there is a camera with a preview to focus. The areas are
computed by the executor itself, which a crash there takes down. -/
def applyFocus (s : CameraSystem σ) : CameraSystem σ :=
  match s.tap with
  | none => s
  | some tap =>
    let s := { s with tap := none }
    match s.slot, s.preview with
    | some camera, some preview =>
      match s.settings.focusMapper.request? tap preview s.display camera.capabilities with
      | none => s.setStage .crashed
      | some none => s
      | some (some request) =>
        s.setStage (.native (.focus camera.device camera.capabilities request) (.focus request))
    | _, _ => s

def execute (s : CameraSystem σ) : Command → CameraSystem σ
  | .openCamera facing request =>
    if s.slot.isSome then s else (s.enter .opening facing).setStage (.opening facing request)
  | .closeCamera => s.beginClose false
  | .configurePreview session => s.configurePreview session
  | .turnDevice turn => { s with executor := { s.executor with turn := turn } }.refreshOrientation
  | .tiltDevice angle =>
    { s with executor := { s.executor with angle := some angle } }.refreshOrientation
  | .applyFocus => s.applyFocus
  | .barrier => { s with barriers := s.barriers + 1 }

/-- Go on after a routine has ended. -/
def resume (s : CameraSystem σ) (routine : Routine) : Continuation → CameraSystem σ
  | .install facing request camera o =>
    match routine.result? with
    | some (.ok ()) => s.install facing camera o
    | some (.error e) => s.abandon camera.device facing request e
    | none =>
      s.abandon camera.device facing request (.preview "configure task did not complete")
  | .abandon facing request e => s.failOpen facing request e
  | .forget facing last => s.forget facing last
  | .resize camera size =>
    match routine.result? with
    | some (.ok ()) => ({ s with preview := some size }.announce camera size).setStage .idle
    | _ => s.setStage .idle
  | .turn o => (s.publish (.orientationChanged o.display o.output)).setStage .idle
  | .focus request =>
    match routine.result? with
    | some (.ok ()) => (s.publish (.focusRequested request)).setStage .idle
    | _ => s.setStage .idle

def executorReady (s : CameraSystem σ) : Bool :=
  match s.executor.stage with
  | .idle => !s.queue.isEmpty || !s.hasSenders
  | .stopped | .crashed => false
  | _ => true

/-- One step of the executor. When no command can come any more it closes the camera and stops. -/
def executorStep (s : CameraSystem σ) : CameraSystem σ :=
  match s.executor.stage with
  | .idle =>
    match s.queue with
    | c :: rest => { s with queue := rest }.execute c
    | [] => if s.hasSenders then s else s.beginClose true
  | .opening facing request => s.openNatively facing request
  | .native routine next =>
    if routine.steps.isEmpty then s.resume routine next
    else
      let (routine, service) := routine.perform s.service
      { s with service := service }.setStage (.native routine next)
  | .stopped | .crashed => s

end CameraSystem

end Viewfinder
