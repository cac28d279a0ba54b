import Viewfinder.Camera.Simulator
import Viewfinder.Control.Requests
import Viewfinder.Control.Tasks

/-!
# Runs

A run of a camera system is a list of moves in any order: a request of a user, a change of the
faults of the simulated hardware, or one step of a task that is ready. `run?` makes the moves one
after another and gives nothing if one of them could not be made. What every move keeps, every run
keeps (`run?_keeps`); what one move touches is told for the requests and for each kind of task.
-/

namespace Viewfinder

/-- A service that can be told to fail. -/
class FaultInjection (σ : Type) where
  setFaults : SimulatorFaults → σ → σ

instance {τ : Type} : FaultInjection (Simulator τ) where
  setFaults faults s := { s with faults := faults }

/-- Everything that the users of a camera can ask of it. -/
inductive Request where
  | start (facing : Facing)
  | pause
  | swap
  | setViewport (viewport : Size)
  | turnDevice (turn : QuarterTurn)
  | tiltDevice (angle : Int32)
  | focusOn (tap : Tap)
  | takePicture (visible : Rect)
  | setListener
  | clearListener
  | subscribe
  | barrier
  /-- The last user lets go of the camera. -/
  | drop
deriving DecidableEq, Repr

inductive Move where
  | request (r : Request)
  | setFaults (faults : SimulatorFaults)
  | task (t : Task)
deriving DecidableEq, Repr

namespace CameraSystem

variable {σ : Type}

/-- A system at rest over a service, before anything was asked of it. -/
def ofService (settings : Settings) (service : σ) (capacity : Nat) (facing : Facing) :
    CameraSystem σ where
  settings := settings
  service := service
  bus := .ofCapacity capacity
  requests := { facing := facing }

/-- A system over simulated cameras, before anything was asked of it. -/
def ofCameras (settings : Settings) (cameras : List CameraSpec) (capacity : Nat) (facing : Facing) :
    CameraSystem (Simulator Ticket) :=
  ofService settings (.ofCameras cameras) capacity facing

variable [CameraService σ]

def request (s : CameraSystem σ) : Request → CameraSystem σ
  | .start facing => s.start facing
  | .pause => s.pause
  | .swap => s.swap
  | .setViewport viewport => s.setViewport viewport
  | .turnDevice turn => s.turnDevice turn
  | .tiltDevice angle => s.tiltDevice angle
  | .focusOn tap => (s.focusOn tap).2
  | .takePicture visible => (s.takePicture visible).2
  | .setListener => s.setListener.2
  | .clearListener => s.clearListener
  | .subscribe => { s with bus := s.bus.subscribe.2 }
  | .barrier => s.barrier.2
  | .drop => s.drop

/-- Only a user who still holds the camera can ask, and only a task that is ready can step. -/
def enabled (s : CameraSystem σ) : Move → Bool
  | .request _ => s.inUse
  | .setFaults _ => true
  | .task t => s.ready t

variable [FaultInjection σ]

def move (s : CameraSystem σ) : Move → CameraSystem σ
  | .request r => s.request r
  | .setFaults faults => { s with service := FaultInjection.setFaults faults s.service }
  | .task t => s.step t

/-- So many steps of the executor. -/
def turns (n : Nat) : List Move := List.replicate n (.task .executor)

/-- The system after some moves, if each could be made in its turn. -/
def run? (s : CameraSystem σ) : List Move → Option (CameraSystem σ)
  | [] => some s
  | m :: rest => if s.enabled m then (s.move m).run? rest else none

theorem run?_cons_eq_some {s t : CameraSystem σ} {m : Move} {rest : List Move} :
    s.run? (m :: rest) = some t ↔ s.enabled m = true ∧ (s.move m).run? rest = some t := by
  simp [run?]

/-- What each move keeps is kept by a run. -/
theorem run?_keeps {P : CameraSystem σ → Prop}
    (step : ∀ s m, P s → s.enabled m = true → P (s.move m)) {s t : CameraSystem σ}
    {moves : List Move} (run : s.run? moves = some t) (start : P s) : P t := by
  induction moves generalizing s with
  | nil => cases run; exact start
  | cons m rest ih =>
    obtain ⟨allowed, run⟩ := run?_cons_eq_some.1 run
    exact ih run (step s m start allowed)

/-! ## What moves leave alone -/

omit [CameraService σ] [FaultInjection σ] in
theorem withdraw_eq (s : CameraSystem σ) (request : Nat) :
    s.withdraw request = { s with requests := { s.requests with
      started := s.requests.started && s.requests.newest != request } } := by
  obtain ⟨_, _, _, _, _, _, _, _, ⟨started, facing, newest⟩⟩ := s
  cases started <;> cases same : newest == request <;> simp [withdraw, same, bne]

/-- Two systems that do not differ in what only the executor writes. -/
structure Undisturbed (s t : CameraSystem σ) : Prop where
  settings : t.settings = s.settings
  slot : t.slot = s.slot
  state : t.state = s.state
  orientation : t.orientation = s.orientation
  preview : t.preview = s.preview
  executor : t.executor = s.executor

section

omit [FaultInjection σ]

theorem request_undisturbed (s : CameraSystem σ) (r : Request) : Undisturbed s (s.request r) := by
  cases r <;>
    simp only [request, start, openRequest, pause, swap, setViewport, turnDevice, tiltDevice,
      focusOn, takePicture, setListener, clearListener, barrier, drop, submit] <;>
    repeat' (first | exact ⟨rfl, rfl, rfl, rfl, rfl, rfl⟩ | split)

theorem service_request (s : CameraSystem σ) (r : Request) : (s.request r).service = s.service := by
  cases r <;>
    simp only [request, start, openRequest, pause, swap, setViewport, turnDevice, tiltDevice,
      focusOn, takePicture, setListener, clearListener, barrier, drop, submit] <;>
    repeat' (first | rfl | split)

omit [CameraService σ] in
theorem prepare_undisturbed (s : CameraSystem σ) (session : Nat) :
    Undisturbed s (s.prepare session) := by
  simp only [prepare, submit]
  split <;> exact ⟨rfl, rfl, rfl, rfl, rfl, rfl⟩

omit [CameraService σ] in
theorem service_prepare (s : CameraSystem σ) (session : Nat) :
    (s.prepare session).service = s.service := by
  simp only [prepare, submit]
  split <;> rfl

theorem requestFrame_undisturbed (s : CameraSystem σ) (ticket : Ticket) :
    Undisturbed s (s.requestFrame ticket) := by
  simp only [requestFrame, endJob, removeJob, setJobStage]
  repeat' (first | exact ⟨rfl, rfl, rfl, rfl, rfl, rfl⟩ | split)

theorem jobStep_undisturbed (s : CameraSystem σ) (j : Job) : Undisturbed s (s.jobStep j) := by
  unfold jobStep
  dsimp only
  repeat' (first
    | exact ⟨rfl, rfl, rfl, rfl, rfl, rfl⟩ | exact requestFrame_undisturbed s _ | split)

theorem send_undisturbed (s : CameraSystem σ) (device : Nat) :
    Undisturbed s (s.send device) := by
  unfold send
  split <;> exact ⟨rfl, rfl, rfl, rfl, rfl, rfl⟩

omit [CameraService σ] in
theorem arrive_undisturbed (s : CameraSystem σ) (job : Nat) : Undisturbed s (s.arrive job) := by
  simp only [arrive, handOver, setJobStage]
  repeat' (first | exact ⟨rfl, rfl, rfl, rfl, rfl, rfl⟩ | split)

omit [CameraService σ] in
theorem bridgeStep_undisturbed (s : CameraSystem σ) (b : Bridge) :
    Undisturbed s (s.bridgeStep b) :=
  ⟨rfl, rfl, rfl, rfl, rfl, rfl⟩

/-- Only the executor writes what it shares with the others. -/
theorem step_undisturbed (s : CameraSystem σ) {t : Task} (other : t ≠ .executor) :
    Undisturbed s (s.step t) := by
  have same : Undisturbed s s := ⟨rfl, rfl, rfl, rfl, rfl, rfl⟩
  cases t with
  | executor => exact absurd rfl other
  | preparation session => exact s.prepare_undisturbed session
  | job id => cases found : s.job? id <;> simp [step, found, same, s.jobStep_undisturbed]
  | bridge feed =>
    cases found : s.bridge? feed <;> simp [step, found, same, s.bridgeStep_undisturbed]
  | delivery device => exact s.send_undisturbed device
  | arrival job => exact s.arrive_undisturbed job

/-- Two systems that do not differ in what users and captures write. -/
structure SameCaptures (s t : CameraSystem σ) : Prop where
  viewport : t.viewport = s.viewport
  capture : t.capture = s.capture
  accepted : t.accepted = s.accepted
  jobs : t.jobs = s.jobs
  inFlight : t.inFlight = s.inFlight
  inUse : t.inUse = s.inUse

theorem execute_sameCaptures (s : CameraSystem σ) (c : Command) : SameCaptures s (s.execute c) := by
  cases c <;>
    simp only [execute, beginClose, configurePreview, announce, refreshOrientation, applyFocus] <;>
    repeat' (first | exact ⟨rfl, rfl, rfl, rfl, rfl, rfl⟩ | split)

omit [CameraService σ] in
theorem resume_sameCaptures (s : CameraSystem σ) (r : Routine) (next : Continuation) :
    SameCaptures s (s.resume r next) := by
  cases next <;>
    simp only [resume, install, abandon, failOpen, withdraw, forget, announce] <;>
    repeat' (first | exact ⟨rfl, rfl, rfl, rfl, rfl, rfl⟩ | split)

/-- Two systems that do not differ in what commands leave to native calls and to those who ask. -/
structure SameErrands (s t : CameraSystem σ) : Prop where
  service : t.service = s.service
  settings : t.settings = s.settings
  requests : t.requests = s.requests
  queue : t.queue = s.queue
  preparing : t.preparing = s.preparing
  sessions : t.executor.sessions = s.executor.sessions

theorem execute_sameErrands (s : CameraSystem σ) (c : Command) : SameErrands s (s.execute c) := by
  cases c <;>
    simp only [execute, beginClose, configurePreview, announce, refreshOrientation, applyFocus] <;>
    repeat' (first | exact ⟨rfl, rfl, rfl, rfl, rfl, rfl⟩ | split)

/-- The executor writes nothing that users and captures write. -/
theorem executorStep_sameCaptures (s : CameraSystem σ) : SameCaptures s s.executorStep := by
  unfold executorStep
  split
  · split
    · next c rest _ =>
      have kept := execute_sameCaptures { s with queue := rest } c
      exact ⟨kept.viewport, kept.capture, kept.accepted, kept.jobs, kept.inFlight, kept.inUse⟩
    · split
      · exact ⟨rfl, rfl, rfl, rfl, rfl, rfl⟩
      · unfold beginClose
        split <;> exact ⟨rfl, rfl, rfl, rfl, rfl, rfl⟩
  · simp only [openNatively, failOpen, withdraw]
    repeat' (first | exact ⟨rfl, rfl, rfl, rfl, rfl, rfl⟩ | split)
  · split
    · exact resume_sameCaptures _ _ _
    · exact ⟨rfl, rfl, rfl, rfl, rfl, rfl⟩
  all_goals exact ⟨rfl, rfl, rfl, rfl, rfl, rfl⟩

/-- No task lets go of the camera for its users. -/
theorem inUse_step (s : CameraSystem σ) (t : Task) : (s.step t).inUse = s.inUse := by
  cases t with
  | executor => exact s.executorStep_sameCaptures.inUse
  | preparation session =>
    simp only [step, prepare, submit]
    split <;> rfl
  | job id =>
    simp only [step]
    cases s.job? id with
    | none => rfl
    | some j =>
      simp only [Option.elim, jobStep, requestFrame]
      repeat' (first | rfl | split)
  | bridge feed =>
    simp only [step]
    cases s.bridge? feed <;> rfl
  | delivery device =>
    simp only [step, send]
    split <;> rfl
  | arrival job =>
    simp only [step, arrive, handOver]
    repeat' (first | rfl | split)

/-! ## What a move asks of the service -/

theorem service_execute (s : CameraSystem σ) (c : Command) : (s.execute c).service = s.service :=
  (execute_sameErrands s c).service

omit [CameraService σ] in
theorem service_resume (s : CameraSystem σ) (r : Routine) (next : Continuation) :
    (s.resume r next).service = s.service := by
  cases next <;>
    simp only [resume, install, abandon, failOpen, withdraw, forget, announce] <;>
    repeat' (first | rfl | split)

theorem service_jobStep (s : CameraSystem σ) (j : Job) :
    (s.jobStep j).service = s.service ∨
      ∃ camera, s.slot = some camera ∧ camera.session = j.ticket.session ∧
        (s.jobStep j).service =
          (CameraService.requestFrame camera.device j.ticket s.service).2 := by
  have request : (s.requestFrame j.ticket).service = s.service ∨ ∃ camera, s.slot = some camera ∧
      camera.session = j.ticket.session ∧ (s.requestFrame j.ticket).service =
        (CameraService.requestFrame camera.device j.ticket s.service).2 := by
    unfold requestFrame
    split
    · exact .inl rfl
    · next camera slot =>
      obtain ⟨slot, session⟩ := Option.filter_eq_some_iff.1 slot
      refine .inr ⟨camera, slot, of_decide_eq_true session, ?_⟩
      split <;> next eq => simp [eq, setJobStage, endJob, removeJob]
  unfold jobStep
  dsimp only
  repeat' (first | exact .inl rfl | exact request | split)

theorem service_send (s : CameraSystem σ) (device : Nat) :
    (s.send device).service = (CameraService.fire device s.service).2 := by
  unfold send
  split <;> next eq => simp [eq]

omit [CameraService σ] in
theorem service_arrive (s : CameraSystem σ) (job : Nat) : (s.arrive job).service = s.service := by
  simp only [arrive, handOver, setJobStage]
  repeat' (first | rfl | split)

end

/-- All that a move can do to the service. -/
inductive Touched (s : CameraSystem σ) : σ → Prop
  | none : Touched s s.service
  | acquire (facing : Facing) (request : Nat) (stage : s.executor.stage = .opening facing request)
      (present : (CameraService.sensor? s.service facing).isSome) :
      Touched s (CameraService.acquire facing s.service).2
  | call (routine : Routine) (next : Continuation) (step : NativeStep) (rest : List NativeStep)
      (stage : s.executor.stage = .native routine next) (steps : routine.steps = step :: rest) :
      Touched s (CameraService.call routine.device step.call s.service).2
  | requestFrame (camera : OpenCamera) (ticket : Ticket) (slot : s.slot = some camera)
      (session : camera.session = ticket.session) :
      Touched s (CameraService.requestFrame camera.device ticket s.service).2
  | fire (device : Nat) : Touched s (CameraService.fire device s.service).2
  | setFaults (faults : SimulatorFaults) : Touched s (FaultInjection.setFaults faults s.service)

theorem Touched.openNatively (s : CameraSystem σ) {facing : Facing} {request : Nat}
    (stage : s.executor.stage = .opening facing request) :
    Touched s (s.openNatively facing request).service := by
  have fails (t : CameraSystem σ) (e : CameraError) :
      (t.failOpen facing request e).service = t.service := by
    simp only [failOpen, withdraw]
    split <;> rfl
  unfold CameraSystem.openNatively
  split
  · rw [fails]
    exact .none
  · next sensor found =>
    have acquired := Touched.acquire facing request stage (by simp [found])
    split <;> next eq => rw [eq] at acquired; simpa only [fails, setStage] using acquired

omit [FaultInjection σ] in
/-- A routine asks of the service its next call and nothing else. -/
theorem service_perform {r : Routine} {step : NativeStep} {rest : List NativeStep}
    (steps : r.steps = step :: rest) (service : σ) :
    (r.perform service).2 = (CameraService.call r.device step.call service).2 := by
  simp only [Routine.perform, steps]
  rcases CameraService.call r.device step.call service with ⟨_ | e | _, service⟩
  · rfl
  · cases step.onRefusal <;> rfl
  · rfl

theorem Touched.executorStep (s : CameraSystem σ) : Touched s s.executorStep.service := by
  unfold CameraSystem.executorStep
  split
  · split
    · rw [service_execute]
      exact .none
    · split
      · exact .none
      · have : (s.beginClose true).service = s.service := by
          simp only [beginClose]
          split <;> rfl
        rw [this]
        exact .none
  · next stage => exact .openNatively s stage
  · next routine next stage =>
    split
    · rw [service_resume]
      exact .none
    · next going =>
      obtain ⟨step, rest, steps⟩ := List.exists_cons_of_ne_nil (mt List.isEmpty_iff.2 going)
      exact (congrArg (Touched s) (service_perform steps s.service)).mpr
        (.call routine next step rest stage steps)
  all_goals exact .none

theorem Touched.move (s : CameraSystem σ) (m : Move) : Touched s (s.move m).service := by
  cases m with
  | request r =>
    rw [CameraSystem.move, service_request]
    exact .none
  | setFaults faults => exact .setFaults faults
  | task t =>
    cases t with
    | executor => exact .executorStep s
    | preparation session =>
      rw [CameraSystem.move, step, service_prepare]
      exact .none
    | job id =>
      simp only [CameraSystem.move, step]
      cases s.job? id with
      | none => exact .none
      | some j =>
        rcases s.service_jobStep j with same | ⟨camera, slot, session, eq⟩
        · exact (congrArg (Touched s) same).mpr .none
        · exact (congrArg (Touched s) eq).mpr (.requestFrame camera j.ticket slot session)
    | bridge feed =>
      simp only [CameraSystem.move, step]
      cases s.bridge? feed <;> exact .none
    | delivery device =>
      rw [CameraSystem.move, step, service_send]
      exact .fire device
    | arrival job =>
      rw [CameraSystem.move, step, service_arrive]
      exact .none

end CameraSystem

end Viewfinder
