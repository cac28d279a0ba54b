import Viewfinder.Proofs.Routines
import Viewfinder.Proofs.Run

/-!
# Custody of the device

Over simulated cameras the slot, the state of the handle and what the executor is about agree at
every moment on which device is held: `Custody` has one case for each way in which they can, and
`Secured` ties it to the service. `Turn` lists all that a step of the executor can do from there;
whatever is proved of a run of the executor is proved by the cases of `Turn`.
-/

namespace Viewfinder

/-- Whether a routine works on the camera in the slot, which it leaves there. -/
def Continuation.works : Continuation → Bool
  | .resize .. | .turn _ | .focus _ => true
  | _ => false

/-- How the slot and the state of the handle agree with the stage of the executor on the device that
is held. -/
def Custody (slot : Option OpenCamera) (state : HandleState) (held : Option Nat) : Stage → Prop
  | .idle =>
    slot = none ∧ state = .closed ∧ held = none ∨
      ∃ camera, slot = some camera ∧ state = .opened ∧ held = some camera.device
  | .opening _ _ => slot = none ∧ state = .opening ∧ held = none
  | .native r (.install facing _ camera _) =>
    slot = none ∧ state = .opening ∧ held = some r.device ∧ r.device = camera.device ∧
      camera.sensor.facing = facing ∧ r.Unfailing
  -- no device is given up while it is configured, since it refuses nothing that matters
  | .native _ (.abandon ..) => False
  | .native r (.forget _ _) =>
    slot = none ∧ state = .closing ∧
      (held = some r.device ∧ (r.steps = (Routine.release r.device).steps ∨
          r.steps = (Routine.release r.device).steps.tail) ∨
        held = none ∧ r.steps = [])
  | .native r _ =>
    ∃ camera, slot = some camera ∧ state = .opened ∧ held = some camera.device ∧
      r.device = camera.device ∧ r.Keeps
  | .stopped => slot = none ∧ state = .closed ∧ held = none
  | .crashed => ∃ camera, slot = some camera ∧ state = .opened ∧ held = some camera.device

namespace CameraSystem

/-- The executor has begun to close for good, or has stopped. -/
def Ending {σ : Type} (s : CameraSystem σ) : Prop :=
  match s.executor.stage with
  | .stopped | .native _ (.forget _ true) => True
  | _ => False

/-- The device that is held is the one that the service has open, and the executor ends only when
nothing can come any more. -/
structure Secured (s : CameraSystem (Simulator Ticket)) (held : Option Nat) : Prop where
  custody : Custody s.slot s.state held s.executor.stage
  holds : s.service.Holds held
  ending : s.Ending → s.hasSenders = false ∧ s.queue = []

/-- All that a step of the executor can do. -/
inductive Turn (s : CameraSystem (Simulator Ticket)) : CameraSystem (Simulator Ticket) → Prop
  | take (c : Command) (rest : List Command) (idle : s.executor.stage = .idle)
      (queue : s.queue = c :: rest) : Turn s ({ s with queue := rest }.execute c)
  | finish (idle : s.executor.stage = .idle) (queue : s.queue = [])
      (unsent : s.hasSenders = false) : Turn s (s.beginClose true)
  | missing (facing : Facing) (request : Nat) (stage : s.executor.stage = .opening facing request)
      (absent : s.service.camera? facing = none) :
      Turn s (s.failOpen facing request (.noSuchCamera facing))
  | refused (facing : Facing) (request : Nat) (stage : s.executor.stage = .opening facing request)
      (present : (s.service.camera? facing).isSome) (failing : 0 < s.service.faults.failingOpens) :
      Turn s ({ s with service := s.service.failedOnce }.failOpen facing request
        (.openFailed facing "simulated hardware failure"))
  | acquired (facing : Facing) (request : Nat) (spec : CameraSpec) (capabilities : Capabilities)
      (o : Orientation) (stage : s.executor.stage = .opening facing request)
      (present : s.service.camera? facing = some spec)
      (reported : capabilities = spec.capabilities) (resolved : o = s.resolveOrientation spec.sensor) :
      Turn s ({ s with service := s.service.opened spec }.setStage
        (.native (.configure s.service.devices.length capabilities o)
          (.install facing request
            ⟨s.service.devices.length, spec.sensor, capabilities, s.executor.sessions + 1⟩ o)))
  | called (routine : Routine) (next : Continuation) (step : NativeStep) (rest : List NativeStep)
      (stage : s.executor.stage = .native routine next) (steps : routine.steps = step :: rest) :
      Turn s ({ s with service := (routine.perform s.service).2 }.setStage
        (.native (routine.perform s.service).1 next))
  | installed (routine : Routine) (facing : Facing) (request : Nat) (camera : OpenCamera)
      (o : Orientation)
      (stage : s.executor.stage = .native routine (.install facing request camera o))
      (steps : routine.steps = []) : Turn s (s.install facing camera o)
  | forgotten (routine : Routine) (facing : Facing) (last : Bool)
      (stage : s.executor.stage = .native routine (.forget facing last))
      (steps : routine.steps = []) : Turn s (s.forget facing last)
  | worked (routine : Routine) (next : Continuation) (works : next.works = true)
      (stage : s.executor.stage = .native routine next) (steps : routine.steps = []) :
      Turn s (s.resume routine next)

variable {s t : CameraSystem (Simulator Ticket)} {held : Option Nat}

/-- The camera in the slot is open and its device is held, whatever the executor is about. -/
theorem Secured.of_slot {camera : OpenCamera} (h : s.Secured held) (slot : s.slot = some camera) :
    s.state = .opened ∧ held = some camera.device := by
  have custody := h.custody
  simp only [Custody, slot] at custody
  split at custody <;> simp_all

theorem Secured.of_opening {facing : Facing} {request : Nat} (h : s.Secured held)
    (stage : s.executor.stage = .opening facing request) :
    s.slot = none ∧ s.state = .opening ∧ held = none := by
  have custody := h.custody
  rwa [stage] at custody

theorem Secured.of_installing {routine : Routine} {facing : Facing} {request : Nat}
    {camera : OpenCamera} {o : Orientation} (h : s.Secured held)
    (stage : s.executor.stage = .native routine (.install facing request camera o)) :
    s.slot = none ∧ s.state = .opening ∧ held = some routine.device ∧
      routine.device = camera.device ∧ camera.sensor.facing = facing ∧ routine.Unfailing := by
  have custody := h.custody
  rwa [stage] at custody

theorem Secured.of_closing {routine : Routine} {facing : Facing} {last : Bool} (h : s.Secured held)
    (stage : s.executor.stage = .native routine (.forget facing last)) :
    s.slot = none ∧ s.state = .closing := by
  have custody := h.custody
  rw [stage] at custody
  exact ⟨custody.1, custody.2.1⟩

/-- A device whose release is through is held no more. -/
theorem Secured.of_forgotten {routine : Routine} {facing : Facing} {last : Bool}
    (h : s.Secured held) (stage : s.executor.stage = .native routine (.forget facing last))
    (steps : routine.steps = []) : held = none := by
  have custody := h.custody
  rw [stage] at custody
  obtain ⟨-, -, ⟨-, left | left⟩ | ⟨none, -⟩⟩ := custody
  · simp [steps, Routine.release] at left
  · simp [steps, Routine.release] at left
  · exact none

theorem Secured.of_works {routine : Routine} {next : Continuation} (h : s.Secured held)
    (stage : s.executor.stage = .native routine next) (works : next.works = true) :
    ∃ camera, s.slot = some camera ∧ s.state = .opened ∧ held = some camera.device := by
  have custody := h.custody
  rw [stage] at custody
  cases next with
  | install | abandon | forget => cases works
  | resize | turn | focus =>
    obtain ⟨camera, slot, state, held, -⟩ := custody
    exact ⟨camera, slot, state, held⟩

/-- A call is always for the device that is held. -/
theorem Secured.of_native {routine : Routine} {next : Continuation} {step : NativeStep}
    {rest : List NativeStep} (h : s.Secured held) (stage : s.executor.stage = .native routine next)
    (steps : routine.steps = step :: rest) : held = some routine.device := by
  have custody := h.custody
  rw [stage] at custody
  cases next with
  | install => exact custody.2.2.1
  | abandon => exact custody.elim
  | forget =>
    obtain ⟨-, -, ⟨held, -⟩ | ⟨-, none⟩⟩ := custody
    · exact held
    · simp [none] at steps
  | resize | turn | focus =>
    obtain ⟨camera, -, -, held, device, -⟩ := custody
    rw [held, device]

/-- Between two commands, and at the end, either nothing is held or the camera in the slot is. -/
theorem Secured.between (h : s.Secured held)
    (between : s.executor.stage = .idle ∨ s.executor.stage = .stopped ∨
      s.executor.stage = .crashed) :
    s.slot = none ∧ s.state = .closed ∧ held = none ∨
      ∃ camera, s.slot = some camera ∧ s.state = .opened ∧ held = some camera.device := by
  have custody := h.custody
  rcases between with stage | stage | stage <;> rw [stage] at custody
  · exact custody
  · exact .inl custody
  · exact .inr custody

theorem Secured.openNatively_turn (h : s.Secured held) {facing : Facing} {request : Nat}
    (stage : s.executor.stage = .opening facing request) :
    Turn s (s.openNatively facing request) := by
  obtain ⟨-, -, rfl⟩ := h.of_opening stage
  rcases h.holds.acquire_cases facing with
    ⟨absent, -⟩ | ⟨spec, present, failing, eq⟩ | ⟨spec, present, -, eq⟩
  · simp only [openNatively, CameraService.sensor?, absent, Option.map_none]
    exact .missing facing request stage absent
  · simp only [openNatively, CameraService.sensor?, present, Option.map_some,
      CameraService.acquire, eq]
    exact .refused facing request stage (by simp [present]) failing
  · simp only [openNatively, CameraService.sensor?, present, Option.map_some,
      CameraService.acquire, eq]
    have reported : CameraService.capabilities (s.service.opened spec) s.service.devices.length =
        spec.capabilities := by
      simp [CameraService.capabilities, Simulator.opened, SimulatedDevice.ofSpec]
    exact .acquired facing request spec _ _ stage present reported rfl

theorem Secured.resume_turn (h : s.Secured held) {routine : Routine} {next : Continuation}
    (stage : s.executor.stage = .native routine next) (steps : routine.steps = []) :
    Turn s (s.resume routine next) := by
  have custody := h.custody
  rw [stage] at custody
  cases next with
  | install facing request camera o =>
    obtain ⟨-, -, -, -, -, unfailing⟩ := custody
    simp only [resume, unfailing.result]
    exact .installed _ _ _ _ _ stage steps
  | abandon => exact custody.elim
  | forget => exact .forgotten _ _ _ stage steps
  | resize | turn | focus => exact .worked _ _ rfl stage steps

/-- A step of a ready executor is one of the cases of `Turn`. -/
theorem Secured.turn (h : s.Secured held) (ready : s.executorReady = true) :
    Turn s s.executorStep := by
  unfold executorReady at ready
  unfold executorStep
  split
  · next idle =>
    split
    · next c rest queue => exact .take c rest idle queue
    · next queue =>
      simp only [idle, queue, List.isEmpty_nil, Bool.not_true, Bool.false_or,
        Bool.not_eq_eq_eq_not] at ready
      rw [if_neg (by simp [ready])]
      exact .finish idle queue ready
  · next facing request stage => exact h.openNatively_turn stage
  · next routine next stage =>
    split
    · next ended => exact h.resume_turn stage (List.isEmpty_iff.1 ended)
    · next going =>
      obtain ⟨step, rest, steps⟩ := List.exists_cons_of_ne_nil (mt List.isEmpty_iff.2 going)
      exact .called routine next step rest stage steps
  all_goals next stage => simp [stage] at ready

theorem Secured.of_not_ending (custody : Custody t.slot t.state held t.executor.stage)
    (holds : t.service.Holds held) (going : ¬t.Ending) : t.Secured held :=
  ⟨custody, holds, fun ending => absurd ending going⟩

/-- Taking the camera out of the slot, or finding none there. -/
theorem Secured.beginClose (h : s.Secured held) (idle : s.executor.stage = .idle) {last : Bool}
    (unsent : last = true → s.hasSenders = false ∧ s.queue = []) :
    ∃ held', (s.beginClose last).Secured held' := by
  have custody := h.custody
  rw [idle] at custody
  rcases custody with ⟨slot, state, rfl⟩ | ⟨camera, slot, state, rfl⟩
  · refine ⟨none, ?_, ?_, ?_⟩
    · cases last <;> simp [CameraSystem.beginClose, slot, setStage, state, Custody]
    · simpa [CameraSystem.beginClose, slot, setStage] using h.holds
    · cases last <;> simp [CameraSystem.beginClose, slot, setStage, Ending]
      exact unsent rfl
  · refine ⟨some camera.device, ?_, ?_, ?_⟩
    · simp [CameraSystem.beginClose, slot, setStage, enter, publish, Custody, Routine.release]
    · simpa [CameraSystem.beginClose, slot, setStage, enter, publish] using h.holds
    · cases last <;> simp [CameraSystem.beginClose, slot, setStage, enter, publish, Ending]
      exact unsent rfl

theorem Secured.announce (h : s.Secured held) (camera : OpenCamera) (size : Size) :
    (s.announce camera size).Secured held := by
  unfold CameraSystem.announce
  split
  · exact h
  · exact ⟨h.custody, h.holds, h.ending⟩

theorem Secured.configurePreview (h : s.Secured held) (session : Nat) :
    (s.configurePreview session).Secured held := by
  unfold CameraSystem.configurePreview
  split
  · exact h
  · next camera slot =>
    obtain ⟨state, rfl⟩ := h.of_slot slot
    repeat' split
    · exact h
    · exact h
    · exact h.announce camera _
    · exact .of_not_ending ⟨camera, slot, state, rfl, rfl, Routine.resize_keeps _ _ _⟩ h.holds id

theorem Secured.refreshOrientation (h : s.Secured held) : s.refreshOrientation.Secured held := by
  unfold CameraSystem.refreshOrientation
  split
  · exact h
  · next camera slot =>
    obtain ⟨state, rfl⟩ := h.of_slot slot
    dsimp only
    split
    · exact ⟨h.custody, h.holds, h.ending⟩
    · exact .of_not_ending ⟨camera, slot, state, rfl, rfl, Routine.turn_keeps _ _ _ _⟩ h.holds id

theorem Secured.applyFocus (h : s.Secured held) : s.applyFocus.Secured held := by
  unfold CameraSystem.applyFocus
  split
  · exact h
  · dsimp only
    split
    · next camera preview slot _ =>
      obtain ⟨state, rfl⟩ := h.of_slot slot
      split
      · exact .of_not_ending ⟨camera, slot, state, rfl⟩ h.holds id
      · exact ⟨h.custody, h.holds, h.ending⟩
      · exact .of_not_ending ⟨camera, slot, state, rfl, rfl, Routine.focus_keeps _ _ _⟩ h.holds id
    · exact ⟨h.custody, h.holds, h.ending⟩

theorem Secured.execute (h : s.Secured held) (idle : s.executor.stage = .idle) (c : Command) :
    ∃ held', (s.execute c).Secured held' := by
  cases c with
  | openCamera facing request =>
    have custody := h.custody
    rw [idle] at custody
    rcases custody with ⟨slot, state, rfl⟩ | ⟨camera, slot, -, -⟩
    · refine ⟨none, .of_not_ending ?_ ?_ ?_⟩ <;>
        simp [CameraSystem.execute, slot, setStage, enter, publish, Ending, h.holds, Custody]
    · exact ⟨held, by simpa [CameraSystem.execute, slot] using h⟩
  | closeCamera => exact h.beginClose idle (by simp)
  | configurePreview session => exact ⟨held, h.configurePreview session⟩
  | turnDevice turn =>
    exact ⟨held, Secured.refreshOrientation (s := { s with executor := { s.executor with turn } })
      ⟨h.custody, h.holds, h.ending⟩⟩
  | tiltDevice angle =>
    exact ⟨held, Secured.refreshOrientation
      (s := { s with executor := { s.executor with angle := some angle } })
      ⟨h.custody, h.holds, h.ending⟩⟩
  | applyFocus => exact ⟨held, h.applyFocus⟩
  | barrier => exact ⟨held, h.custody, h.holds, h.ending⟩

theorem Secured.failOpen (slot : s.slot = none) (holds : s.service.Holds none) (facing : Facing)
    (request : Nat) (e : CameraError) : (s.failOpen facing request e).Secured none := by
  unfold CameraSystem.failOpen withdraw
  split <;> exact .of_not_ending (.inl ⟨slot, rfl, rfl⟩) holds id

/-- One native call, whatever the routine is for. -/
theorem Secured.call (h : s.Secured held) {routine : Routine} {next : Continuation}
    {step : NativeStep} {rest : List NativeStep}
    (stage : s.executor.stage = .native routine next) (steps : routine.steps = step :: rest) :
    ∃ held', ({ s with service := (routine.perform s.service).2 }.setStage
      (.native (routine.perform s.service).1 next)).Secured held' := by
  have custody := h.custody
  have holds := h.holds
  rw [stage] at custody
  cases next with
  | install facing request camera o =>
    obtain ⟨slot, state, rfl, device, looks, unfailing⟩ := custody
    obtain ⟨-, -, after⟩ := unfailing.keeps.perform holds steps
    obtain ⟨eq, unfailing⟩ := unfailing.perform holds steps
    rw [eq] at after ⊢
    exact ⟨_, .of_not_ending ⟨slot, state, rfl, device, looks, unfailing⟩ after id⟩
  | abandon => exact custody.elim
  | forget facing last =>
    obtain ⟨slot, state, ⟨rfl, left⟩ | ⟨-, none⟩⟩ := custody
    · obtain ⟨-, -, -, -, -, -, -, after⟩ := holds.call step.call
      obtain ⟨eq, ending⟩ := Routine.release_perform holds steps left
      have same : ({ s with service := (routine.perform s.service).2 }.setStage
          (.native (routine.perform s.service).1 (.forget facing last))).Ending ↔ s.Ending := by
        simp only [Ending, setStage, stage]
        cases last <;> rfl
      rw [eq] at *
      rcases ending with ⟨keeps, left⟩ | ⟨releases, left⟩
      · rw [if_neg keeps] at after
        exact ⟨_, ⟨slot, state, .inl ⟨rfl, .inr left⟩⟩, after, fun e => h.ending (same.1 e)⟩
      · rw [if_pos releases] at after
        exact ⟨none, ⟨slot, state, .inr ⟨rfl, left⟩⟩, after, fun e => h.ending (same.1 e)⟩
    · simp [none] at steps
  | resize | turn | focus =>
    obtain ⟨camera, slot, state, rfl, device, keeps⟩ := custody
    rw [← device] at holds
    obtain ⟨same, keeps, after⟩ := keeps.perform holds steps
    exact ⟨_, .of_not_ending ⟨camera, slot, state, rfl, same.trans device, keeps⟩
      (device ▸ after) id⟩

/-- The executor is idle, with the camera in the slot and the commands that wait as they were. -/
structure Returned {σ : Type} (s t : CameraSystem σ) : Prop where
  idle : t.executor.stage = .idle
  slot : t.slot = s.slot
  state : t.state = s.state
  service : t.service = s.service
  queue : t.queue = s.queue
  sessions : t.executor.sessions = s.executor.sessions
  orientation : t.orientation = s.orientation
  turn : t.executor.turn = s.executor.turn
  angle : t.executor.angle = s.executor.angle

theorem resume_returned {σ : Type} (s : CameraSystem σ) (routine : Routine) {next : Continuation}
    (works : next.works = true) : Returned s (s.resume routine next) := by
  cases next with
  | install | abandon | forget => cases works
  | resize camera size =>
    simp only [resume, announce]
    repeat' (first | exact ⟨rfl, rfl, rfl, rfl, rfl, rfl, rfl, rfl, rfl⟩ | split)
  | turn o => exact ⟨rfl, rfl, rfl, rfl, rfl, rfl, rfl, rfl, rfl⟩
  | focus request =>
    simp only [resume]
    split <;> exact ⟨rfl, rfl, rfl, rfl, rfl, rfl, rfl, rfl, rfl⟩

theorem resume_sameErrands {σ : Type} (s : CameraSystem σ) (routine : Routine)
    {next : Continuation} (works : next.works = true) :
    SameErrands s (s.resume routine next) := by
  cases next <;> simp only [resume, announce] <;>
    repeat' (first | exact ⟨rfl, rfl, rfl, rfl, rfl, rfl⟩ | split)
  all_goals cases works

/-- The executor goes on after a routine that worked on the camera in the slot. -/
theorem Secured.resume (h : s.Secured held) {routine : Routine} {next : Continuation}
    (stage : s.executor.stage = .native routine next) (works : next.works = true) :
    (s.resume routine next).Secured held := by
  have returned := s.resume_returned routine works
  refine .of_not_ending ?_ (returned.service ▸ h.holds) (by simp [Ending, returned.idle])
  rw [returned.idle, returned.slot, returned.state]
  exact .inr (h.of_works stage works)

theorem Secured.of_turn (h : s.Secured held) (turn : Turn s t) : ∃ held', t.Secured held' := by
  have holds := h.holds
  cases turn with
  | take c rest idle queue =>
    refine Secured.execute (s := { s with queue := rest }) ⟨h.custody, h.holds, ?_⟩ idle c
    simp [Ending, idle]
  | finish idle queue unsent => exact h.beginClose idle fun _ => ⟨unsent, queue⟩
  | missing facing request stage absent =>
    obtain ⟨slot, -, rfl⟩ := h.of_opening stage
    exact ⟨none, .failOpen slot holds facing request _⟩
  | refused facing request stage present =>
    obtain ⟨slot, -, rfl⟩ := h.of_opening stage
    exact ⟨none, .failOpen (s := { s with service := s.service.failedOnce }) slot
      (holds.setFaults _) facing request _⟩
  | acquired facing request spec capabilities o stage present =>
    obtain ⟨slot, state, rfl⟩ := h.of_opening stage
    exact ⟨some s.service.devices.length, .of_not_ending ⟨slot, state, rfl, rfl,
      Simulator.camera?_facing present, Routine.configure_unfailing _ _ _⟩ (holds.opened spec) id⟩
  | called routine next step rest stage steps => exact h.call stage steps
  | installed routine facing request camera o stage steps =>
    obtain ⟨-, -, rfl, device, -⟩ := h.of_installing stage
    exact ⟨_, .of_not_ending (.inr ⟨camera, rfl, rfl, congrArg some device⟩) holds id⟩
  | forgotten routine facing last stage steps =>
    obtain ⟨slot, -⟩ := h.of_closing stage
    obtain rfl := h.of_forgotten stage steps
    cases last with
    | false => exact ⟨none, .of_not_ending (.inl ⟨slot, rfl, rfl⟩) holds id⟩
    | true => exact ⟨none, ⟨slot, rfl, rfl⟩, holds, fun _ => h.ending (by simp [Ending, stage])⟩
  | worked routine next works stage steps => exact ⟨held, h.resume stage works⟩

end CameraSystem

end Viewfinder
