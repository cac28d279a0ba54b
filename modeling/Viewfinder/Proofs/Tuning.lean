import Viewfinder.Proofs.Orienting
import Viewfinder.Proofs.Roster

/-!
# The preview size of the open camera

Whatever happens to it on the way, the device of the camera that is open has the preview size that
the system tells, or will have it when the calls that are left have been made (`Sized`). Together
with the orientation this is what a run keeps of how the open camera is set (`Tuned`).
-/

namespace Viewfinder

theorem Simulator.camera?_congr {τ : Type} {s t : Simulator τ} (cameras : t.cameras = s.cameras)
    (facing : Facing) : t.camera? facing = s.camera? facing := by
  rw [camera?, cameras, camera?]

namespace CameraSystem

variable {s t : CameraSystem (Simulator Ticket)} {held : Option Nat}

/-- The device that was opened last is that of `camera`, and the calls that are left set it to the
preview size that is told, if one is. -/
structure Fitted (s : CameraSystem (Simulator Ticket)) (camera : OpenCamera) (f : Fitting) :
    Prop where
  last : s.service.last? = some f
  present : s.service.camera? camera.sensor.facing = some f.spec
  sensor : camera.sensor = f.spec.sensor
  capabilities : camera.capabilities = f.spec.capabilities
  aims : Aims (DeviceCall.resizes f.spec.capabilities.previewSizes)
    (· = s.aim.getD f.spec.defaultPreview) s.executor.stage.steps f.preview

/-- The preview size that is told is one that the open camera offers, and what its device is set to
or will be. -/
structure Sized (s : CameraSystem (Simulator Ticket)) : Prop where
  newest : s.service.Newest
  closed : s.slot = none → s.state ≠ .closing → s.aim = none
  offered : ∀ camera, s.slot = some camera → ∀ size, s.aim = some size →
    size ∈ camera.capabilities.previewSizes
  accepted : ∀ routine camera size, s.executor.stage = .native routine (.resize camera size) →
    s.slot = some camera ∧ routine.Accepted camera.capabilities.previewSizes
  fitted : ∀ camera, s.engaged? = some camera → ∃ f, s.Fitted camera f

/-- The calls that are left are others, but none of them sets the size. -/
theorem Fitted.of_spares {camera : OpenCamera} {f : Fitting} (h : s.Fitted camera f)
    (steps : s.executor.stage.steps = []) (aim : t.aim = s.aim) (service : t.service = s.service)
    (spares : ∀ offered, Spares (DeviceCall.resizes offered) t.executor.stage.steps) :
    t.Fitted camera f := by
  refine ⟨service ▸ h.last, service ▸ h.present, h.sensor, h.capabilities, ?_⟩
  have aims := h.aims
  rw [steps] at aims
  rw [aim]
  exact (spares _).aims aims

theorem Sized.of_spares (h : s.Sized) (steps : s.executor.stage.steps = [])
    (aim : t.aim = s.aim) (service : t.service = s.service) (slot : t.slot = s.slot)
    (state : t.state = s.state) (engaged : t.engaged? = s.engaged?)
    (size : t.executor.stage.size? = none)
    (spares : ∀ offered, Spares (DeviceCall.resizes offered) t.executor.stage.steps) : t.Sized where
  newest := service ▸ h.newest
  closed := by
    rw [slot, state, aim]
    exact h.closed
  offered := by
    rw [slot, aim]
    exact h.offered
  accepted routine camera chosen stage := by simp [stage, Stage.size?] at size
  fitted camera open_ := by
    obtain ⟨f, fitted⟩ := h.fitted camera (engaged ▸ open_)
    exact ⟨f, fitted.of_spares steps aim service spares⟩

theorem spares_nil {α : Type} {effect : DeviceCall → α → α} : Spares effect [] :=
  fun _ mem => absurd mem List.not_mem_nil

/-- Between two commands only the preview size that is told counts. -/
theorem Sized.of_idle (h : s.Sized) (idle : s.executor.stage = .idle)
    (still : t.executor.stage = .idle) (preview : t.preview = s.preview)
    (service : t.service = s.service) (slot : t.slot = s.slot) (state : t.state = s.state) :
    t.Sized := by
  refine h.of_spares (by rw [idle]; rfl) ?_ service slot state ?_ (by rw [still]; rfl) ?_
  · rw [aim_of_idle still, aim_of_idle idle, preview]
  · rw [engaged?_of_idle still, engaged?_of_idle idle, slot]
  · rw [still]
    exact fun _ => spares_nil

/-- A routine for the open camera that does not set the size is begun. -/
theorem Sized.begin (h : s.Sized) (idle : s.executor.stage = .idle) {routine : Routine}
    {next : Continuation} (spares : ∀ offered, Spares (DeviceCall.resizes offered) routine.steps)
    (stage : t.executor.stage = .native routine next)
    (next_eq : (∃ o, next = .turn o) ∨ ∃ request, next = .focus request)
    (preview : t.preview = s.preview) (service : t.service = s.service) (slot : t.slot = s.slot)
    (state : t.state = s.state) : t.Sized := by
  refine h.of_spares (by rw [idle]; rfl) ?_ service slot state ?_ ?_ (by rw [stage]; exact spares)
  · rw [aim_of_idle idle, aim, stage, preview]
    rcases next_eq with ⟨o, rfl⟩ | ⟨request, rfl⟩ <;> rfl
  · rw [engaged?_of_idle idle, engaged?, stage, slot]
    rcases next_eq with ⟨o, rfl⟩ | ⟨request, rfl⟩ <;> rfl
  · rw [stage]
    rcases next_eq with ⟨o, rfl⟩ | ⟨request, rfl⟩ <;> rfl

/-- A device that is held shows the size that it was set to. -/
theorem Fitted.previewSize {camera : OpenCamera} {f : Fitting} (h : s.Fitted camera f)
    (newest : s.service.Newest) (holds : s.service.Holds (some camera.device)) :
    CameraService.previewSize s.service camera.device = f.preview := by
  obtain ⟨d, get, -⟩ := holds.device
  have last := h.last
  rw [holds.last? newest get] at last
  cases last
  simp [CameraService.previewSize, get, SimulatedDevice.fitting]

theorem Sized.configurePreview (h : s.Sized) (secured : s.Secured held)
    (idle : s.executor.stage = .idle) (session : Nat) : (s.configurePreview session).Sized := by
  rcases s.configurePreview_cases session with
    ⟨-, eq⟩ | ⟨camera, slot, -, ⟨-, eq⟩ | ⟨size, chosen, ⟨-, eq⟩ | ⟨-, eq⟩⟩⟩
  all_goals rw [eq]
  · exact h
  · exact h
  · unfold announce
    split
    · exact h
    · exact h.of_idle idle idle rfl rfl rfl rfl
  · obtain ⟨-, rfl⟩ := secured.of_slot slot
    obtain ⟨f, fitted⟩ := h.fitted camera ((engaged?_of_idle idle).trans slot)
    have mem : size ∈ camera.capabilities.previewSizes := Preview.mem_of_negotiate? chosen
    refine ⟨h.newest, ?_, ?_, ?_, ?_⟩
    · intro empty
      cases slot.symm.trans empty
    · rintro other open_ size' ⟨⟩
      cases slot.symm.trans open_
      exact mem
    · rintro routine other size' ⟨⟩
      exact ⟨slot, Routine.resize_accepted _ _ mem⟩
    · intro other open_
      cases slot.symm.trans open_
      refine ⟨f, fitted.last, fitted.present, fitted.sensor, fitted.capabilities, ?_⟩
      rw [fitted.previewSize h.newest secured.holds]
      exact Routine.resize_aims _ _ (fitted.capabilities ▸ mem)

theorem Sized.refreshOrientation (h : s.Sized) (idle : s.executor.stage = .idle) :
    s.refreshOrientation.Sized := by
  rcases s.refreshOrientation_cases with ⟨-, eq⟩ | ⟨camera, slot, ⟨-, eq⟩ | ⟨-, eq⟩⟩
  all_goals rw [eq]
  · exact h
  · exact h.of_idle idle idle rfl rfl rfl rfl
  · exact h.begin idle (Routine.turn_spares_preview _ _ _ _) rfl (.inl ⟨_, rfl⟩) rfl rfl rfl rfl

theorem Sized.applyFocus (h : s.Sized) (idle : s.executor.stage = .idle) : s.applyFocus.Sized := by
  obtain ⟨tap, eq | ⟨camera, slot, eq | ⟨request, eq⟩⟩⟩ := s.applyFocus_cases
  all_goals rw [eq]
  · exact h.of_idle idle idle rfl rfl rfl rfl
  · exact h.of_spares (by rw [idle]; rfl) (aim_of_idle idle).symm rfl rfl rfl
      (engaged?_of_idle idle).symm rfl fun _ => spares_nil
  · exact h.begin idle (fun offered => (Routine.focus_spares _ _ _ offered).1) rfl
      (.inr ⟨_, rfl⟩) rfl rfl rfl rfl

theorem Sized.beginClose (h : s.Sized) (idle : s.executor.stage = .idle) (last : Bool) :
    (s.beginClose last).Sized := by
  cases slot : s.slot with
  | none =>
    have eq : s.beginClose last = s.setStage (if last then .stopped else .idle) := by
      simp [CameraSystem.beginClose, slot]
    rw [eq]
    refine h.of_spares (by rw [idle]; rfl) ?_ rfl rfl rfl ?_ ?_ ?_
    · rw [aim_of_idle idle]
      cases last <;> rfl
    · rw [engaged?_of_idle idle]
      cases last <;> rfl
    · cases last <;> rfl
    · cases last <;> exact fun _ => spares_nil
  | some camera =>
    simp only [CameraSystem.beginClose, slot]
    refine ⟨h.newest, ?_, ?_, ?_, ?_⟩
    · intro _ going
      exact absurd rfl going
    · rintro other ⟨⟩
    · rintro routine other size ⟨⟩
    · rintro other ⟨⟩

theorem Sized.execute (h : s.Sized) (secured : s.Secured held) (idle : s.executor.stage = .idle)
    (c : Command) : (s.execute c).Sized := by
  cases c with
  | openCamera facing request =>
    simp only [CameraSystem.execute]
    split
    · exact h
    · next unopened =>
      have slot : s.slot = none := by simpa using unopened
      have closed := h.closed slot (by simp [secured.state_of_idle idle slot])
      refine ⟨h.newest, fun _ _ => (aim_of_idle idle).symm.trans closed, ?_, ?_, ?_⟩
      · intro camera open_
        cases slot.symm.trans open_
      · rintro routine camera size ⟨⟩
      · intro camera open_
        cases slot.symm.trans open_
  | closeCamera => exact h.beginClose idle false
  | configurePreview session => exact h.configurePreview secured idle session
  | turnDevice turn =>
    exact Sized.refreshOrientation (s := { s with executor := { s.executor with turn := turn } })
      (h.of_idle idle idle rfl rfl rfl rfl) idle
  | tiltDevice angle =>
    exact Sized.refreshOrientation
      (s := { s with executor := { s.executor with angle := some angle } })
      (h.of_idle idle idle rfl rfl rfl rfl) idle
  | applyFocus => exact h.applyFocus idle
  | barrier => exact h.of_idle idle idle rfl rfl rfl rfl

/-- One native call, whatever the routine is for. -/
theorem Sized.call (h : s.Sized) (secured : s.Secured held) {routine : Routine}
    {next : Continuation} {step : NativeStep} {rest : List NativeStep}
    (stage : s.executor.stage = .native routine next) (steps : routine.steps = step :: rest)
    (newest : (routine.perform s.service).2.Newest) :
    ({ s with service := (routine.perform s.service).2 }.setStage
      (.native (routine.perform s.service).1 next)).Sized := by
  have holds := secured.holds
  rw [secured.of_native stage steps] at holds
  have aim : ({ s with service := (routine.perform s.service).2 }.setStage
      (.native (routine.perform s.service).1 next)).aim = s.aim := by
    rw [CameraSystem.aim, CameraSystem.aim, stage]
    cases next <;> rfl
  have engaged : ({ s with service := (routine.perform s.service).2 }.setStage
      (.native (routine.perform s.service).1 next)).engaged? = s.engaged? := by
    rw [engaged?, engaged?, stage]
    cases next <;> rfl
  obtain ⟨d, get, unreleased, last, after⟩ := holds.call_last? h.newest step.call
  obtain ⟨-, -, -, -, -, cameras, -⟩ := holds.call step.call
  refine ⟨newest, ?_, ?_, ?_, ?_⟩
  · rw [aim]
    exact h.closed
  · rw [aim]
    exact h.offered
  · rintro routine' camera size ⟨⟩
    obtain ⟨slot, accepted⟩ := h.accepted routine camera size stage
    have open_ : s.engaged? = some camera := by
      rw [engaged?, stage]
      exact slot
    obtain ⟨f, fitted⟩ := h.fitted camera open_
    cases last.symm.trans fitted.last
    exact ⟨slot, accepted.perform holds get (congrArg _ fitted.capabilities).symm steps⟩
  · intro camera open_
    obtain ⟨f, fitted⟩ := h.fitted camera (engaged ▸ open_)
    cases last.symm.trans fitted.last
    have spec := d.spec_call s.service.faults step.call
    refine ⟨(d.call s.service.faults step.call).2.fitting, ?_, ?_, ?_, ?_, ?_⟩
    · exact (congrArg Simulator.last? (service_perform steps s.service)).trans after
    · rw [show (d.call s.service.faults step.call).2.fitting.spec = d.spec from spec]
      have present := fitted.present
      rw [← Simulator.camera?_congr cameras] at present
      exact (congrArg (fun service => Simulator.camera? service _)
        (service_perform steps s.service)).trans present
    · exact fitted.sensor.trans (congrArg _ spec).symm
    · exact fitted.capabilities.trans (congrArg _ spec).symm
    · have aims := fitted.aims
      rw [stage] at aims
      have aims := aims.perform holds steps
      simp only [SimulatedDevice.fitting, SimulatedDevice.preview_call unreleased, spec, aim]
      exact aims

theorem Sized.failOpen (h : s.Sized) (newest : t.service.Newest) {facing : Facing} {request : Nat}
    (stage : s.executor.stage = .opening facing request) (slot : t.slot = none)
    (preview : t.preview = s.preview) (state : s.slot = none ∧ s.state = .opening)
    (idle : t.executor.stage = .idle) : t.Sized := by
  have closed := h.closed state.1 (by simp [state.2])
  rw [aim, stage] at closed
  refine ⟨newest, fun _ _ => ?_, ?_, ?_, ?_⟩
  · rw [aim_of_idle idle, preview]
    exact closed
  · intro camera open_
    cases slot.symm.trans open_
  · intro routine camera size begun
    cases idle.symm.trans begun
  · intro camera open_
    rw [engaged?_of_idle idle, slot] at open_
    cases open_

/-- A resize that has ended has set the size that it was for. -/
theorem Sized.aim_resume (h : s.Sized) {routine : Routine} {next : Continuation}
    (works : next.works = true) (stage : s.executor.stage = .native routine next) :
    (s.resume routine next).aim = s.aim := by
  rw [aim_of_idle (s.resume_returned routine works).idle, aim, stage]
  cases next with
  | install | abandon | forget => cases works
  | resize camera size =>
    obtain ⟨-, accepted⟩ := h.accepted routine camera size stage
    simp only [CameraSystem.resume, accepted.result, announce]
    split <;> rfl
  | turn o => rfl
  | focus request =>
    simp only [CameraSystem.resume]
    split <;> rfl

theorem Sized.resume (h : s.Sized) {routine : Routine} {next : Continuation}
    (works : next.works = true) (stage : s.executor.stage = .native routine next)
    (steps : routine.steps = []) : (s.resume routine next).Sized := by
  have returned := s.resume_returned routine works
  refine h.of_spares (by rw [stage]; exact steps) (h.aim_resume works stage) returned.service
    returned.slot returned.state ?_ ?_ ?_
  · rw [engaged?_of_idle returned.idle, returned.slot, engaged?_of_works stage works]
  · rw [returned.idle]
    rfl
  · rw [returned.idle]
    exact fun _ => spares_nil

theorem Sized.of_turn (h : s.Sized) (secured : s.Secured held) (turn : Turn s t)
    (newest : t.service.Newest) : t.Sized := by
  cases turn with
  | take c rest idle queue =>
    refine Sized.execute (s := { s with queue := rest }) (h.of_idle idle idle rfl rfl rfl rfl)
      ⟨secured.custody, secured.holds, ?_⟩ idle c
    simp [Ending, idle]
  | finish idle queue unsent => exact h.beginClose idle true
  | missing facing request stage absent | refused facing request stage present =>
    obtain ⟨slot, state, -⟩ := secured.of_opening stage
    rw [CameraSystem.failOpen, withdraw_eq] at newest ⊢
    exact h.failOpen newest stage slot rfl ⟨slot, state⟩ rfl
  | acquired facing request spec capabilities o stage present reported resolved =>
    obtain ⟨slot, state, -⟩ := secured.of_opening stage
    have closed := h.closed slot (by simp [state])
    rw [aim, stage] at closed
    refine ⟨newest, fun _ _ => closed, ?_, ?_, ?_⟩
    · intro camera open_
      cases slot.symm.trans open_
    · rintro routine camera size ⟨⟩
    · rintro camera ⟨⟩
      refine ⟨_, Simulator.last?_opened spec, ?_, rfl, reported, ?_⟩
      · show s.service.camera? spec.sensor.facing = some spec
        rw [Simulator.camera?_facing present]
        exact present
      · refine (Routine.configure_spares_preview _ _ _ _).aims ?_
        show spec.defaultPreview = (none.or s.preview).getD spec.defaultPreview
        rw [show none.or s.preview = none from closed]
        rfl
  | called routine next step rest stage steps => exact h.call secured stage steps newest
  | installed routine facing request camera o stage steps =>
    obtain ⟨slot, state, -⟩ := secured.of_installing stage
    have closed := h.closed slot (by simp [state])
    rw [aim, stage] at closed
    have aim : (s.install facing camera o).aim = s.aim := by
      rw [CameraSystem.aim, CameraSystem.aim, stage]
      rfl
    refine ⟨newest, ?_, ?_, ?_, ?_⟩
    · rintro ⟨⟩
    · intro other _ size told
      cases closed.symm.trans told
    · rintro routine' other size ⟨⟩
    · rintro other ⟨⟩
      obtain ⟨f, fitted⟩ := h.fitted camera (by rw [engaged?, stage]; rfl)
      refine ⟨f, fitted.of_spares ?_ aim rfl fun _ => spares_nil⟩
      rw [stage]
      exact steps
  | forgotten routine facing last stage steps =>
    obtain ⟨slot, -⟩ := secured.of_closing stage
    refine ⟨newest, ?_, ?_, ?_, ?_⟩
    · cases last <;> exact fun _ _ => rfl
    · intro camera open_
      cases slot.symm.trans open_
    · intro routine' camera size begun
      cases last <;> cases begun
    · intro camera open_
      have empty : (s.forget facing last).engaged? = none := by
        cases last <;> exact slot
      cases empty.symm.trans open_
  | worked routine next works stage steps => exact h.resume works stage steps

theorem Sized.move (h : s.Sized) (secured : s.Secured held) {m : Move}
    (enabled : s.enabled m = true) : (s.move m).Sized := by
  have newest := newest_of_touched h.newest secured (.move s m)
  by_cases own : m = .task .executor
  · subst own
    exact h.of_turn secured (secured.turn enabled) newest
  have same := undisturbed_move (s := s) own
  have cameras : (s.move m).service.cameras = s.service.cameras := congrArg Prod.fst (past_move own)
  have aim : (s.move m).aim = s.aim := by
    rw [CameraSystem.aim, CameraSystem.aim, same.executor, same.preview]
  have engaged : (s.move m).engaged? = s.engaged? := by
    rw [engaged?, engaged?, same.executor, same.slot]
  refine ⟨newest, ?_, ?_, ?_, ?_⟩
  · rw [same.slot, same.state, aim]
    exact h.closed
  · rw [same.slot, aim]
    exact h.offered
  · rw [same.executor, same.slot]
    exact h.accepted
  · rw [engaged]
    intro camera open_
    obtain ⟨f, fitted⟩ := h.fitted camera open_
    refine ⟨f, (last?_move own).trans fitted.last, ?_, fitted.sensor, fitted.capabilities, ?_⟩
    · rw [Simulator.camera?_congr cameras]
      exact fitted.present
    · rw [aim, same.executor]
      exact fitted.aims

theorem sized_ofCameras (settings : Settings) (cameras : List CameraSpec) (capacity : Nat)
    (facing : Facing) : (ofCameras settings cameras capacity facing).Sized := by
  refine ⟨Simulator.newest_ofCameras cameras, fun _ _ => rfl, ?_, ?_, ?_⟩
  · rintro camera ⟨⟩
  · rintro routine camera size ⟨⟩
  · rintro camera ⟨⟩

/-- All that every moment of a run keeps of how the open camera is set. -/
structure Tuned (s : CameraSystem (Simulator Ticket)) : Prop where
  sound : s.Sound
  oriented : s.Oriented
  sized : s.Sized

theorem Tuned.move (h : s.Tuned) {m : Move} (enabled : s.enabled m = true) : (s.move m).Tuned := by
  obtain ⟨held, secured⟩ := h.sound.secured
  exact ⟨h.sound.move enabled, h.oriented.move secured enabled, h.sized.move secured enabled⟩

theorem tuned_ofCameras (settings : Settings) (cameras : List CameraSpec) (capacity : Nat)
    (facing : Facing) : (ofCameras settings cameras capacity facing).Tuned where
  sound := sound_ofCameras settings cameras capacity facing
  oriented := oriented_ofCameras settings cameras capacity facing
  sized := sized_ofCameras settings cameras capacity facing

end CameraSystem

end Viewfinder
