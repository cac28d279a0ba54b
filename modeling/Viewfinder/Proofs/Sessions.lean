import Viewfinder.Proofs.Secured

/-!
# Numbers of sessions

The camera in the slot belongs to the newest session, and the one that is being configured will
begin the next. So a session that is over never comes back.
-/

namespace Viewfinder

/-- The session that begins when the routine of the stage is through. -/
def Stage.begins? : Stage → Option Nat
  | .native _ (.install _ _ camera _) => some camera.session
  | _ => none

namespace CameraSystem

section

variable {σ : Type} [CameraService σ]

/-- Only a close empties the slot. -/
theorem slot_execute (s : CameraSystem σ) {c : Command} (other : c ≠ .closeCamera) :
    (s.execute c).slot = s.slot := by
  cases c with
  | closeCamera => exact absurd rfl other
  | _ =>
    simp only [execute, configurePreview, announce, refreshOrientation, applyFocus]
    repeat' (first | rfl | split)

omit [CameraService σ] in
theorem slot_beginClose (s : CameraSystem σ) (last : Bool) : (s.beginClose last).slot = none := by
  unfold beginClose
  split
  · assumption
  · rfl

theorem begins_execute (s : CameraSystem σ) (idle : s.executor.stage = .idle) (c : Command) :
    (s.execute c).executor.stage.begins? = none := by
  have still : s.executor.stage.begins? = none := by rw [idle]; rfl
  cases c <;>
    simp only [execute, beginClose, configurePreview, announce, refreshOrientation, applyFocus] <;>
    repeat' (first | exact still | rfl | split)

/-- How sessions are numbered. -/
structure Numbered (s : CameraSystem σ) : Prop where
  slot : ∀ camera, s.slot = some camera → camera.session = s.executor.sessions
  begins : ∀ session, s.executor.stage.begins? = some session →
    session = s.executor.sessions + 1

end

variable {s t : CameraSystem (Simulator Ticket)} {held : Option Nat}

theorem Undisturbed.numbered (same : Undisturbed s t) (h : s.Numbered) : t.Numbered := by
  obtain ⟨slot, begins⟩ := h
  rw [← same.executor] at slot begins
  rw [← same.slot] at slot
  exact ⟨slot, begins⟩

theorem Numbered.of_turn (h : s.Numbered) (secured : s.Secured held) (turn : Turn s t) :
    t.Numbered := by
  cases turn with
  | take c rest idle queue =>
    refine ⟨fun camera slot => ?_, fun session begins => ?_⟩
    · rw [(execute_sameErrands _ c).sessions]
      by_cases closes : c = .closeCamera
      · subst closes
        cases (slot_beginClose _ false).symm.trans slot
      · rw [slot_execute _ closes] at slot
        exact h.slot camera slot
    · rw [begins_execute { s with queue := rest } idle c] at begins
      cases begins
  | finish idle queue unsent =>
    refine ⟨fun camera slot => ?_, fun session begins => ?_⟩
    · cases (slot_beginClose s true).symm.trans slot
    · unfold beginClose at begins
      split at begins <;> cases begins
  | missing facing request stage absent | refused facing request stage present =>
    obtain ⟨empty, -⟩ := secured.of_opening stage
    refine ⟨fun camera slot => ?_, fun session begins => ?_⟩
    · rw [failOpen, withdraw] at slot
      split at slot <;> cases empty.symm.trans slot
    · cases begins
  | acquired facing request spec capabilities o stage present =>
    refine ⟨h.slot, fun session begins => ?_⟩
    cases begins
    rfl
  | called routine next step rest stage steps =>
    refine ⟨h.slot, fun session begins => h.begins session ?_⟩
    rw [stage]
    cases next <;> exact begins
  | installed routine facing request camera o stage steps =>
    refine ⟨fun camera slot => ?_, fun session begins => ?_⟩
    · cases slot
      rfl
    · cases begins
  | forgotten routine facing last stage steps =>
    obtain ⟨empty, -⟩ := secured.of_closing stage
    refine ⟨fun camera slot => ?_, fun session begins => ?_⟩
    · cases empty.symm.trans slot
    · cases last <;> cases begins
  | worked routine next works stage steps =>
    have returned := s.resume_returned routine works
    refine ⟨fun camera slot => ?_, fun session begins => ?_⟩
    · rw [returned.slot] at slot
      rw [returned.sessions]
      exact h.slot camera slot
    · rw [returned.idle] at begins
      cases begins

/-- Sessions only become more. -/
theorem Numbered.le_of_turn (h : s.Numbered) (turn : Turn s t) :
    s.executor.sessions ≤ t.executor.sessions := by
  cases turn with
  | take c rest idle queue =>
    exact Nat.le_of_eq (execute_sameErrands { s with queue := rest } c).sessions.symm
  | finish idle queue unsent =>
    unfold beginClose
    split <;> exact Nat.le_refl _
  | missing facing request stage absent | refused facing request stage present =>
    rw [failOpen, withdraw]
    split <;> exact Nat.le_refl _
  | installed routine facing request camera o stage steps =>
    have next := h.begins camera.session (by rw [stage]; rfl)
    show s.executor.sessions ≤ camera.session
    omega
  | worked routine next works stage steps =>
    exact Nat.le_of_eq (s.resume_returned routine works).sessions.symm
  | acquired | called | forgotten => exact Nat.le_refl _

theorem Numbered.move (h : s.Numbered) (secured : s.Secured held) {m : Move}
    (enabled : s.enabled m = true) : (s.move m).Numbered := by
  cases m with
  | request r => exact (s.request_undisturbed r).numbered h
  | setFaults faults => exact ⟨h.slot, h.begins⟩
  | task t =>
    by_cases own : t = .executor
    · subst own
      exact h.of_turn secured (secured.turn enabled)
    · exact (s.step_undisturbed own).numbered h

theorem numbered_ofCameras (settings : Settings) (cameras : List CameraSpec) (capacity : Nat)
    (facing : Facing) : (ofCameras settings cameras capacity facing).Numbered := by
  constructor
  · rintro camera ⟨⟩
  · rintro session ⟨⟩

end CameraSystem

end Viewfinder
