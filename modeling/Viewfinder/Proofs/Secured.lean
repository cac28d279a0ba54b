import Viewfinder.Proofs.Custody

/-!
# Every move keeps the device in custody

What users and the tasks beside the executor do changes neither the slot nor the stage, and leaves
a ticket only with the device in the slot. `secured_of_run?` is what every run can count on.
-/

namespace Viewfinder.CameraSystem

variable {s t : CameraSystem (Simulator Ticket)} {held : Option Nat}

theorem Undisturbed.ending (same : Undisturbed s t) : t.Ending ↔ s.Ending := by
  simp only [Ending, same.executor]

theorem Secured.of_undisturbed (h : s.Secured held) (same : Undisturbed s t)
    (holds : t.service.Holds held)
    (silent : s.Ending → t.hasSenders = false ∧ t.queue = []) : t.Secured held := by
  refine ⟨?_, holds, fun ending => silent (same.ending.1 ending)⟩
  rw [same.slot, same.state, same.executor]
  exact h.custody

/-- While a user holds the camera the executor does not end. -/
theorem Secured.not_ending (h : s.Secured held) (senders : s.hasSenders = true) : ¬s.Ending :=
  fun ending => by simp [(h.ending ending).1] at senders

theorem Secured.request (h : s.Secured held) (inUse : s.inUse = true) (r : Request) :
    (s.request r).Secured held := by
  have going : ¬s.Ending := h.not_ending (by simp [hasSenders, inUse])
  refine h.of_undisturbed (s.request_undisturbed r) ?_ fun ending => absurd ending going
  rw [service_request]
  exact h.holds

theorem Secured.prepare (h : s.Secured held) (session : Nat) :
    (s.prepare session).Secured held := by
  refine h.of_undisturbed (s.prepare_undisturbed session) ?_ fun ending => ?_
  · rw [service_prepare]
    exact h.holds
  · -- a preparation finds that nobody can receive a command any more
    obtain ⟨unsent, queue⟩ := h.ending ending
    have silent : s.prepare session =
        { s with preparing := s.preparing.filter (· ≠ session) } := by
      simp [CameraSystem.prepare, unsent]
    rw [silent]
    exact ⟨unsent, queue⟩

/-- The camera in the slot takes a ticket of its session. -/
theorem Secured.requestFrame_eq (h : s.Secured held) {camera : OpenCamera}
    (slot : s.slot = some camera) {ticket : Ticket} (session : camera.session = ticket.session) :
    s.requestFrame ticket =
      { s with service := (s.service.requestFrame camera.device ticket).2 }.setJobStage
        ticket.job .requested := by
  obtain ⟨-, rfl⟩ := h.of_slot slot
  obtain ⟨done, -⟩ := h.holds.requestFrame ticket
  have made : CameraService.requestFrame camera.device ticket s.service =
      (.done (), (s.service.requestFrame camera.device ticket).2) := Prod.ext done rfl
  have found : s.slot.filter (·.session = ticket.session) = some camera := by
    simp [slot, Option.filter, session]
  simp only [CameraSystem.requestFrame, found, made]

/-- For a ticket of another session there is no camera. -/
theorem requestFrame_of_ne (s : CameraSystem (Simulator Ticket)) {ticket : Ticket}
    (other : s.session? ≠ some ticket.session) : s.requestFrame ticket = s.endJob ticket.job := by
  have none_ : s.slot.filter (·.session = ticket.session) = none := by
    cases slot : s.slot with
    | none => rfl
    | some camera => simpa [session?, slot, Option.filter] using other
  simp only [CameraSystem.requestFrame, none_]

theorem Secured.jobStep (h : s.Secured held) {j : Job} (mem : j ∈ s.jobs) :
    (s.jobStep j).Secured held := by
  have going : ¬s.Ending := h.not_ending (by simp [hasSenders, List.ne_nil_of_mem mem])
  refine h.of_undisturbed (s.jobStep_undisturbed j) ?_ fun ending => absurd ending going
  rcases s.service_jobStep j with same | ⟨camera, slot, -, eq⟩
  · rw [same]
    exact h.holds
  · obtain ⟨-, rfl⟩ := h.of_slot slot
    rw [eq]
    exact (h.holds.requestFrame j.ticket).2

theorem Secured.send (h : s.Secured held) (device : Nat) : (s.send device).Secured held := by
  refine h.of_undisturbed (s.send_undisturbed device) ?_ fun ending => ?_
  · rw [service_send]
    exact h.holds.fire device
  · obtain ⟨unsent, queue⟩ := h.ending ending
    simp only [CameraSystem.send]
    split <;> exact ⟨unsent, queue⟩

theorem Secured.arrive (h : s.Secured held) (job : Nat) : (s.arrive job).Secured held := by
  refine h.of_undisturbed (s.arrive_undisturbed job) ?_ fun ending => ?_
  · rw [service_arrive]
    exact h.holds
  · obtain ⟨unsent, queue⟩ := h.ending ending
    simp only [hasSenders, Bool.or_eq_false_iff, Bool.not_eq_eq_eq_not, Bool.not_false,
      List.isEmpty_iff] at unsent
    have silent : (s.arrive job).inUse = false ∧ (s.arrive job).jobs = [] ∧
        (s.arrive job).queue = [] := by
      simp only [CameraSystem.arrive, handOver, setJobStage]
      repeat' (first | exact ⟨unsent.1, unsent.2, queue⟩ | split)
      exact ⟨unsent.1, by simp [unsent.2], queue⟩
    exact ⟨by simp [hasSenders, silent], silent.2.2⟩

theorem Secured.step (h : s.Secured held) {t : Task} (ready : s.ready t = true) :
    ∃ held', (s.step t).Secured held' := by
  cases t with
  | executor => exact h.of_turn (h.turn ready)
  | preparation session => exact ⟨held, h.prepare session⟩
  | job id =>
    simp only [CameraSystem.ready, Option.any_eq_true] at ready
    obtain ⟨j, found, -⟩ := ready
    simp only [CameraSystem.step, found]
    exact ⟨held, h.jobStep (List.mem_of_find?_eq_some found)⟩
  | bridge feed =>
    refine ⟨held, ?_⟩
    simp only [CameraSystem.step]
    cases s.bridge? feed with
    | none => exact h
    | some b => exact h.of_undisturbed (s.bridgeStep_undisturbed b) h.holds h.ending
  | delivery device => exact ⟨held, h.send device⟩
  | arrival job => exact ⟨held, h.arrive job⟩

theorem Secured.move (h : s.Secured held) {m : Move} (enabled : s.enabled m = true) :
    ∃ held', (s.move m).Secured held' := by
  cases m with
  | request r => exact ⟨held, h.request enabled r⟩
  | setFaults faults => exact ⟨held, h.custody, h.holds.setFaults faults, h.ending⟩
  | task t => exact h.step enabled

theorem secured_ofCameras (settings : Settings) (cameras : List CameraSpec) (capacity : Nat)
    (facing : Facing) : (ofCameras settings cameras capacity facing).Secured none :=
  .of_not_ending (.inl ⟨rfl, rfl, rfl⟩) (Simulator.holds_ofCameras cameras) id

end Viewfinder.CameraSystem
