import Viewfinder.Proofs.Run

/-!
# Recorded calls

A recorder stands between a camera system and a service and writes down every native call that is
made, with its outcome. It changes nothing: taken off, it leaves the same run (`unrecorded_run?`).
-/

namespace Viewfinder

/-- A call to the hardware and how it came back. -/
inductive NativeCall where
  | acquire (facing : Facing) (outcome : Outcome Nat)
  | call (device : Nat) (c : DeviceCall) (outcome : Outcome Unit)
  | requestFrame (device : Nat) (ticket : Ticket) (outcome : Outcome Unit)
deriving DecidableEq, Repr

/-- A service with the calls made to it so far. -/
structure Recorder (σ : Type) where
  service : σ
  calls : List NativeCall := []

namespace Recorder

variable {σ : Type}

/-- Note a call whose outcome is known, with what it made of the service. -/
def note {α : Type} (r : Recorder σ) (made : Outcome α → NativeCall) (after : Outcome α × σ) :
    Outcome α × Recorder σ :=
  (after.1, ⟨after.2, r.calls ++ [made after.1]⟩)

instance [CameraService σ] : CameraService (Recorder σ) where
  cameraCount r := CameraService.cameraCount r.service
  sensor? r := CameraService.sensor? r.service
  acquire facing r := r.note (.acquire facing) (CameraService.acquire facing r.service)
  capabilities r := CameraService.capabilities r.service
  previewSize r := CameraService.previewSize r.service
  call device c r := r.note (.call device c) (CameraService.call device c r.service)
  requestFrame device ticket r :=
    r.note (.requestFrame device ticket) (CameraService.requestFrame device ticket r.service)
  tickets r := CameraService.tickets r.service
  due r := CameraService.due r.service
  fire device r :=
    ((CameraService.fire device r.service).1,
      { r with service := (CameraService.fire device r.service).2 })

instance [FaultInjection σ] : FaultInjection (Recorder σ) where
  setFaults faults r := { r with service := FaultInjection.setFaults faults r.service }

end Recorder

namespace CameraSystem

variable {σ : Type}

/-- A system over simulated cameras of which every call is recorded. -/
def recording (settings : Settings) (cameras : List CameraSpec) (capacity : Nat) (facing : Facing) :
    CameraSystem (Recorder (Simulator Ticket)) :=
  ofService settings ⟨.ofCameras cameras, []⟩ capacity facing

/-- The same system without its recorder. -/
def unrecorded (s : CameraSystem (Recorder σ)) : CameraSystem σ :=
  { s with service := s.service.service }

variable (s : CameraSystem (Recorder σ))

@[simp] theorem unrecorded_settings : s.unrecorded.settings = s.settings := rfl
@[simp] theorem unrecorded_service : s.unrecorded.service = s.service.service := rfl
@[simp] theorem unrecorded_slot : s.unrecorded.slot = s.slot := rfl
@[simp] theorem unrecorded_viewport : s.unrecorded.viewport = s.viewport := rfl
@[simp] theorem unrecorded_orientation : s.unrecorded.orientation = s.orientation := rfl
@[simp] theorem unrecorded_preview : s.unrecorded.preview = s.preview := rfl
@[simp] theorem unrecorded_tap : s.unrecorded.tap = s.tap := rfl
@[simp] theorem unrecorded_queue : s.unrecorded.queue = s.queue := rfl
@[simp] theorem unrecorded_executor : s.unrecorded.executor = s.executor := rfl

theorem unrecorded_start (facing : Facing) :
    (s.start facing).unrecorded = s.unrecorded.start facing := by
  unfold start
  rw [apply_ite unrecorded]
  rfl

theorem unrecorded_pause : s.pause.unrecorded = s.unrecorded.pause := by
  unfold pause
  rw [apply_ite unrecorded]
  rfl

theorem unrecorded_setViewport (viewport : Size) :
    (s.setViewport viewport).unrecorded = s.unrecorded.setViewport viewport := by
  rcases s with ⟨_, _, _, _ | _⟩ <;>
    simp only [setViewport, apply_ite unrecorded] <;> rfl

theorem unrecorded_tiltDevice (angle : Int32) :
    (s.tiltDevice angle).unrecorded = s.unrecorded.tiltDevice angle := by
  unfold tiltDevice
  rw [apply_ite unrecorded]
  rfl

theorem unrecorded_focusOn (tap : Tap) :
    (s.focusOn tap).2.unrecorded = (s.unrecorded.focusOn tap).2 := by
  rcases s with ⟨_, _, _, _ | _⟩
  · rfl
  · change unrecorded (ite _ _ _ : Bool × _).2 = (ite _ _ _ : Bool × _).2
    simp only [apply_ite Prod.snd, apply_ite unrecorded]
    rfl

theorem unrecorded_takePicture (visible : Rect) :
    (s.takePicture visible).2.unrecorded = (s.unrecorded.takePicture visible).2 := by
  obtain ⟨_, _, _, slot, state, _, _, _, _, _, _, _, _, capture⟩ := s
  cases state <;> cases slot <;> cases capture <;> rfl

theorem unrecorded_clearListener : s.clearListener.unrecorded = s.unrecorded.clearListener := by
  obtain ⟨_, _, _, _, _, _, _, _, _, _, _, _, _, _, _, _, _, _, listening⟩ := s
  cases listening <;> rfl

theorem unrecorded_setListener : s.setListener.2.unrecorded = s.unrecorded.setListener.2 := by
  obtain ⟨_, _, _, _, _, _, _, _, _, _, _, _, _, _, _, _, _, _, listening⟩ := s
  cases listening <;> rfl

theorem unrecorded_announce (camera : OpenCamera) (size : Size) :
    (s.announce camera size).unrecorded = s.unrecorded.announce camera size := by
  unfold announce
  rw [apply_ite unrecorded]
  rfl

theorem unrecorded_failOpen (facing : Facing) (request : Nat) (e : CameraError) :
    (s.failOpen facing request e).unrecorded = s.unrecorded.failOpen facing request e := by
  have withdrawn : (s.withdraw request).unrecorded = s.unrecorded.withdraw request := by
    unfold withdraw
    rw [apply_ite unrecorded]
    rfl
  exact congrArg (fun w => ((w.enter .closed facing).publish (.failed facing (.ofError e))).setStage
    .idle) withdrawn

theorem unrecorded_beginClose (last : Bool) :
    (s.beginClose last).unrecorded = s.unrecorded.beginClose last := by
  rcases s with ⟨_, _, _, _ | _⟩ <;> rfl

theorem unrecorded_refreshOrientation :
    s.refreshOrientation.unrecorded = s.unrecorded.refreshOrientation := by
  rcases s with ⟨_, _, _, _ | _⟩
  · rfl
  · simp only [refreshOrientation, apply_ite unrecorded]
    rfl

theorem unrecorded_prepare (session : Nat) :
    (s.prepare session).unrecorded = s.unrecorded.prepare session := by
  simp only [prepare, apply_ite unrecorded]
  rfl

theorem unrecorded_handOver (ticket : Ticket) (frame : Frame) :
    (s.handOver ticket frame).unrecorded = s.unrecorded.handOver ticket frame := by
  have same : s.unrecorded.session? = s.session? := rfl
  simp only [handOver, same, unrecorded_orientation]
  repeat' (first | rfl | split)

theorem unrecorded_arrive (job : Nat) : (s.arrive job).unrecorded = s.unrecorded.arrive job := by
  have found : s.unrecorded.sent? job = s.sent? job := rfl
  unfold arrive
  rw [found]
  cases s.sent? job with
  | none => rfl
  | some sent => exact unrecorded_handOver _ sent.ticket sent.frame

theorem unrecorded_applyFocus : s.applyFocus.unrecorded = s.unrecorded.applyFocus := by
  simp only [applyFocus, display, unrecorded_tap, unrecorded_slot, unrecorded_preview,
    unrecorded_settings, unrecorded_orientation]
  repeat' (first | rfl | split)

theorem unrecorded_resume (r : Routine) (next : Continuation) :
    (s.resume r next).unrecorded = s.unrecorded.resume r next := by
  cases next with
  | abandon facing request e => exact s.unrecorded_failOpen facing request e
  | forget | turn => rfl
  | install | resize | focus =>
    simp only [resume]
    split <;> first | rfl | exact congrArg (·.setStage .idle) (unrecorded_announce _ _ _)

variable [CameraService σ]

theorem unrecorded_swap : s.swap.unrecorded = s.unrecorded.swap := by
  unfold swap
  rw [apply_ite unrecorded]
  have closed : (if s.requests.started then s.submit .closeCamera else s).unrecorded =
      if s.unrecorded.requests.started then s.unrecorded.submit .closeCamera else s.unrecorded := by
    rw [apply_ite unrecorded]
    rfl
  exact congrArg (fun c : CameraSystem σ =>
    if CameraService.cameraCount s.unrecorded.service < 2 then s.unrecorded
    else c.openRequest s.requests.facing.toggled) closed

theorem unrecorded_request (r : Request) : (s.request r).unrecorded = s.unrecorded.request r := by
  cases r with
  | start facing => exact s.unrecorded_start facing
  | pause => exact s.unrecorded_pause
  | swap => exact s.unrecorded_swap
  | setViewport viewport => exact s.unrecorded_setViewport viewport
  | turnDevice turn => rfl
  | tiltDevice angle => exact s.unrecorded_tiltDevice angle
  | focusOn tap => exact s.unrecorded_focusOn tap
  | takePicture visible => exact s.unrecorded_takePicture visible
  | setListener => exact s.unrecorded_setListener
  | clearListener => exact s.unrecorded_clearListener
  | subscribe | barrier => rfl
  | drop => exact congrArg (fun c => { c with inUse := false }) s.unrecorded_clearListener

theorem unrecorded_openNatively (facing : Facing) (request : Nat) :
    (s.openNatively facing request).unrecorded = s.unrecorded.openNatively facing request := by
  have sensor : CameraService.sensor? s.unrecorded.service facing =
    CameraService.sensor? s.service facing := rfl
  unfold openNatively
  rw [sensor]
  cases CameraService.sensor? s.service facing with
  | none => exact s.unrecorded_failOpen facing request _
  | some sensor =>
    have made : CameraService.acquire facing s.service =
      s.service.note (.acquire facing) (CameraService.acquire facing s.unrecorded.service) := rfl
    rw [made]
    rcases CameraService.acquire facing s.unrecorded.service with ⟨_ | e | _, service⟩
    · rfl
    · exact unrecorded_failOpen _ facing request e
    · exact unrecorded_failOpen _ facing request _

theorem unrecorded_configurePreview (session : Nat) :
    (s.configurePreview session).unrecorded = s.unrecorded.configurePreview session := by
  simp only [configurePreview, unrecorded_slot, unrecorded_preview, unrecorded_settings,
    unrecorded_viewport]
  split
  · rfl
  · rw [apply_ite unrecorded]
    split
    · rfl
    · split
      · rfl
      · rw [apply_ite unrecorded, unrecorded_announce]
        rfl

theorem unrecorded_execute (c : Command) :
    (s.execute c).unrecorded = s.unrecorded.execute c := by
  cases c with
  | openCamera facing request =>
    simp only [execute, apply_ite unrecorded]
    rfl
  | closeCamera => exact s.unrecorded_beginClose false
  | configurePreview session => exact s.unrecorded_configurePreview session
  | turnDevice turn => exact unrecorded_refreshOrientation _
  | tiltDevice angle => exact unrecorded_refreshOrientation _
  | applyFocus => exact s.unrecorded_applyFocus
  | barrier => rfl

theorem perform_recorded (r : Routine) (recorder : Recorder σ) :
    (r.perform recorder).1 = (r.perform recorder.service).1 ∧
      (r.perform recorder).2.service = (r.perform recorder.service).2 := by
  unfold Routine.perform
  cases r.steps with
  | nil => exact ⟨rfl, rfl⟩
  | cons step rest =>
    have made : CameraService.call r.device step.call recorder =
      recorder.note (.call r.device step.call)
        (CameraService.call r.device step.call recorder.service) := rfl
    dsimp only
    rw [made]
    rcases CameraService.call r.device step.call recorder.service with ⟨_ | e | _, service⟩
    · exact ⟨rfl, rfl⟩
    · cases step.onRefusal <;> exact ⟨rfl, rfl⟩
    · exact ⟨rfl, rfl⟩

theorem unrecorded_executorStep : s.executorStep.unrecorded = s.unrecorded.executorStep := by
  simp only [executorStep, unrecorded_executor, unrecorded_queue]
  split
  · split
    · exact unrecorded_execute _ _
    · rw [apply_ite unrecorded, unrecorded_beginClose]
      rfl
  · exact s.unrecorded_openNatively _ _
  · next routine next _ =>
    rw [apply_ite unrecorded, unrecorded_resume]
    obtain ⟨routine', service'⟩ := perform_recorded routine s.service
    rw [unrecorded_service, ← routine', ← service']
    rfl
  all_goals rfl

theorem unrecorded_requestFrame (ticket : Ticket) :
    (s.requestFrame ticket).unrecorded = s.unrecorded.requestFrame ticket := by
  simp only [requestFrame, unrecorded_slot]
  split
  · rfl
  · next camera _ =>
    have made : CameraService.requestFrame camera.device ticket s.service =
      s.service.note (.requestFrame camera.device ticket)
        (CameraService.requestFrame camera.device ticket s.unrecorded.service) := rfl
    rw [made]
    rcases CameraService.requestFrame camera.device ticket s.unrecorded.service with
      ⟨_ | e | _, service⟩ <;> rfl

theorem unrecorded_jobStep (j : Job) : (s.jobStep j).unrecorded = s.unrecorded.jobStep j := by
  unfold jobStep
  cases j.stage with
  | waiting =>
    simp only [apply_ite unrecorded]
    rfl
  | ready => exact s.unrecorded_requestFrame _
  | requested =>
    rw [apply_ite unrecorded]
    rfl
  | received shot => rfl
  | processing shot =>
    simp only [unrecorded_settings]
    split <;> rfl

theorem unrecorded_send (device : Nat) : (s.send device).unrecorded = s.unrecorded.send device := by
  have made : CameraService.fire device s.service =
    ((CameraService.fire device s.unrecorded.service).1,
      { s.service with service := (CameraService.fire device s.unrecorded.service).2 }) := rfl
  unfold send
  rw [made]
  rcases CameraService.fire device s.unrecorded.service with ⟨_ | ⟨ticket, frame⟩, service⟩ <;> rfl

theorem unrecorded_step (t : Task) : (s.step t).unrecorded = s.unrecorded.step t := by
  cases t with
  | executor => exact s.unrecorded_executorStep
  | preparation session => exact s.unrecorded_prepare session
  | job id =>
    have found : s.unrecorded.job? id = s.job? id := rfl
    simp only [step, found]
    cases s.job? id with
    | none => rfl
    | some j => exact s.unrecorded_jobStep j
  | bridge feed =>
    have found : s.unrecorded.bridge? feed = s.bridge? feed := rfl
    simp only [step, found]
    cases s.bridge? feed <;> rfl
  | delivery device => exact s.unrecorded_send device
  | arrival job => exact s.unrecorded_arrive job

theorem unrecorded_enabled (m : Move) : s.unrecorded.enabled m = s.enabled m := by
  cases m with
  | request | setFaults => rfl
  | task t => cases t <;> rfl

variable [FaultInjection σ]

theorem unrecorded_move (m : Move) : (s.move m).unrecorded = s.unrecorded.move m := by
  cases m with
  | request r => exact s.unrecorded_request r
  | setFaults faults => rfl
  | task t => exact s.unrecorded_step t

/-- The same moves can be made without the recorder, and lead to the same system. -/
theorem unrecorded_run? {s t : CameraSystem (Recorder σ)} {moves : List Move}
    (run : s.run? moves = some t) : s.unrecorded.run? moves = some t.unrecorded := by
  induction moves generalizing s with
  | nil => cases run; rfl
  | cons m rest ih =>
    obtain ⟨allowed, run⟩ := run?_cons_eq_some.1 run
    rw [run?_cons_eq_some, unrecorded_enabled, ← unrecorded_move]
    exact ⟨allowed, ih run⟩

end CameraSystem

end Viewfinder
