import Viewfinder.Proofs.Commands
import Viewfinder.Proofs.Sessions

/-!
# The orientation of the open camera

The orientation that is told follows from the sensor of the open camera and from how the device is
held, which the executor learns of in the order of the commands. A camera that is being configured
is given the orientation that it will have when it is open.
-/

namespace Viewfinder.CameraSystem

section

variable {σ : Type}

/-- The orientation that is told is that of the open camera for the device as it is held. -/
structure Oriented (s : CameraSystem σ) : Prop where
  closed : s.slot = none → s.state ≠ .closing → s.orientation = none
  opened : ∀ camera, s.slot = some camera →
    s.orientation = some (s.resolveOrientation camera.sensor)
  begins : ∀ routine facing request camera o,
    s.executor.stage = .native routine (.install facing request camera o) →
      o = s.resolveOrientation camera.sensor

variable {s t : CameraSystem σ}

theorem Oriented.of_same (h : s.Oriented) (slot : t.slot = s.slot) (state : t.state = s.state)
    (orientation : t.orientation = s.orientation)
    (turn : t.executor.turn = s.executor.turn) (angle : t.executor.angle = s.executor.angle)
    (begins : t.executor.stage.begins? = none ∨ t.executor.stage = s.executor.stage) :
    t.Oriented := by
  have resolves (sensor : Sensor) : t.resolveOrientation sensor = s.resolveOrientation sensor := by
    rw [resolveOrientation, turn, angle, resolveOrientation]
  refine ⟨?_, ?_, ?_⟩
  · rw [slot, state, orientation]
    exact h.closed
  · intro camera open_
    rw [orientation, resolves]
    exact h.opened camera (slot ▸ open_)
  · intro routine facing request camera o stage
    rw [resolves]
    rcases begins with none | same
    · simp [stage, Stage.begins?] at none
    · exact h.begins routine facing request camera o (same ▸ stage)

theorem Undisturbed.oriented (same : Undisturbed s t) (h : s.Oriented) : t.Oriented := by
  refine h.of_same same.slot same.state same.orientation ?_ ?_ (.inr ?_) <;> rw [same.executor]

/-- The orientation is resolved anew for whatever camera is open. -/
theorem oriented_refreshOrientation (idle : s.executor.stage = .idle)
    (closed : s.slot = none → s.state ≠ .closing → s.orientation = none) :
    s.refreshOrientation.Oriented := by
  rcases s.refreshOrientation_cases with ⟨slot, eq⟩ | ⟨camera, slot, ⟨-, eq⟩ | ⟨-, eq⟩⟩
  all_goals rw [eq]
  · refine ⟨closed, ?_, ?_⟩
    · intro camera open_
      cases slot.symm.trans open_
    · intro routine facing request camera o stage
      cases idle.symm.trans stage
  · refine ⟨?_, ?_, ?_⟩
    · intro empty
      cases slot.symm.trans empty
    · intro other open_
      cases slot.symm.trans open_
      rfl
    · intro routine facing request camera o stage
      cases idle.symm.trans stage
  · refine ⟨?_, ?_, ?_⟩
    · intro empty
      cases slot.symm.trans empty
    · intro other open_
      cases slot.symm.trans open_
      rfl
    · intro routine facing request camera o stage
      cases stage

theorem Oriented.beginClose (h : s.Oriented) (last : Bool) : (s.beginClose last).Oriented := by
  cases slot : s.slot with
  | none =>
    have eq : s.beginClose last = s.setStage (if last then .stopped else .idle) := by
      simp [CameraSystem.beginClose, slot]
    rw [eq]
    refine h.of_same rfl rfl rfl rfl rfl (.inl ?_)
    cases last <;> rfl
  | some camera =>
    simp only [CameraSystem.beginClose, slot]
    refine ⟨?_, ?_, ?_⟩
    · intro _ going
      exact absurd rfl going
    · intro other open_
      cases open_
    · intro routine facing request camera o stage
      cases stage

theorem Oriented.execute [CameraService σ] (h : s.Oriented) (idle : s.executor.stage = .idle)
    (opening : s.slot = none → s.state ≠ .closing) (c : Command) : (s.execute c).Oriented := by
  cases c with
  | openCamera facing request =>
    simp only [CameraSystem.execute]
    split
    · exact h
    · next unopened =>
      have slot : s.slot = none := by simpa using unopened
      refine ⟨fun _ _ => h.closed slot (opening slot), ?_, ?_⟩
      · intro camera open_
        cases slot.symm.trans open_
      · intro routine facing request camera o stage
        cases stage
  | closeCamera => exact h.beginClose false
  | configurePreview session =>
    show (s.configurePreview session).Oriented
    rcases s.configurePreview_cases session with
      ⟨-, eq⟩ | ⟨camera, -, -, ⟨-, eq⟩ | ⟨size, -, ⟨-, eq⟩ | ⟨-, eq⟩⟩⟩
    all_goals rw [eq]
    · exact h
    · exact h
    · unfold announce
      split
      · exact h
      · exact h.of_same rfl rfl rfl rfl rfl (.inr rfl)
    · exact h.of_same rfl rfl rfl rfl rfl (.inl rfl)
  | turnDevice turn => exact oriented_refreshOrientation idle h.closed
  | tiltDevice angle => exact oriented_refreshOrientation idle h.closed
  | applyFocus =>
    show s.applyFocus.Oriented
    obtain ⟨tap, eq | ⟨camera, -, eq | ⟨request, eq⟩⟩⟩ := s.applyFocus_cases
    all_goals rw [eq]
    · exact h.of_same rfl rfl rfl rfl rfl (.inr rfl)
    · exact h.of_same rfl rfl rfl rfl rfl (.inl rfl)
    · exact h.of_same rfl rfl rfl rfl rfl (.inl rfl)
  | barrier => exact h.of_same rfl rfl rfl rfl rfl (.inr rfl)

end

variable {s t : CameraSystem (Simulator Ticket)} {held : Option Nat}

/-- Between two commands an empty slot is that of a closed camera. -/
theorem Secured.state_of_idle (h : s.Secured held) (idle : s.executor.stage = .idle)
    (slot : s.slot = none) : s.state = .closed := by
  rcases h.between (.inl idle) with ⟨-, state, -⟩ | ⟨camera, open_, -⟩
  · exact state
  · cases slot.symm.trans open_

theorem Oriented.of_turn (h : s.Oriented) (secured : s.Secured held) (turn : Turn s t) :
    t.Oriented := by
  cases turn with
  | take c rest idle queue =>
    have waiting : { s with queue := rest }.Oriented := h.of_same rfl rfl rfl rfl rfl (.inr rfl)
    refine waiting.execute idle (fun slot => ?_) c
    show s.state ≠ _
    rw [secured.state_of_idle idle slot]
    exact HandleState.noConfusion
  | finish idle queue unsent => exact h.beginClose true
  | missing facing request stage absent | refused facing request stage present =>
    obtain ⟨slot, state, -⟩ := secured.of_opening stage
    have orientation := h.closed slot (by simp [state])
    rw [failOpen, withdraw_eq]
    refine ⟨fun _ _ => orientation, ?_, ?_⟩
    · intro camera open_
      cases slot.symm.trans open_
    · intro routine facing request camera o stage
      cases stage
  | acquired facing request spec capabilities o stage present reported resolved =>
    refine ⟨h.closed, h.opened, ?_⟩
    rintro routine wanted number camera o' ⟨⟩
    exact resolved
  | called routine next step rest stage steps =>
    refine ⟨h.closed, h.opened, ?_⟩
    rintro routine' facing request camera o ⟨⟩
    exact h.begins routine facing request camera o stage
  | installed routine facing request camera o stage steps =>
    have resolved := h.begins routine facing request camera o stage
    refine ⟨?_, ?_, ?_⟩
    · rintro ⟨⟩
    · rintro other ⟨⟩
      exact congrArg some resolved
    · rintro routine' facing' request' camera' o' ⟨⟩
  | forgotten routine facing last stage steps =>
    refine ⟨fun _ _ => rfl, ?_, ?_⟩
    · intro camera open_
      cases (secured.of_closing stage).1.symm.trans open_
    · intro routine' facing' request camera o begins
      cases last <;> cases begins
  | worked routine next works stage steps =>
    have returned := s.resume_returned routine works
    refine h.of_same returned.slot returned.state returned.orientation returned.turn
      returned.angle (.inl ?_)
    rw [returned.idle]
    rfl

theorem Oriented.move (h : s.Oriented) (secured : s.Secured held) {m : Move}
    (enabled : s.enabled m = true) : (s.move m).Oriented := by
  by_cases own : m = .task .executor
  · subst own
    exact h.of_turn secured (secured.turn enabled)
  · exact (undisturbed_move own).oriented h

theorem oriented_ofCameras (settings : Settings) (cameras : List CameraSpec) (capacity : Nat)
    (facing : Facing) : (ofCameras settings cameras capacity facing).Oriented := by
  refine ⟨fun _ _ => rfl, ?_, ?_⟩
  · rintro camera ⟨⟩
  · rintro routine facing request camera o ⟨⟩

end Viewfinder.CameraSystem
