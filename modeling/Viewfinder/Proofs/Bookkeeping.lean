import Viewfinder.Proofs.Handling

/-!
# The books of a simulator

Whatever is done with a simulator, its counters tell how many devices were opened and how many of
them are open, an open is answered by what the counters and the faults say, and a device that was
released once is open no more (`Retired`).
-/

namespace Viewfinder.Simulator

variable {τ : Type} {s : Simulator τ} {held : Option Nat} {i : Nat} {d : SimulatedDevice τ}

/-- The facing of the device that a move opens. -/
def opens? (s : Simulator τ) : SimulatorMove τ → Option Facing
  | .acquire facing =>
    match (s.acquire facing).1 with
    | .done _ => some facing
    | .refused _ | .crashed => none
  | _ => none

/-! ## Counters -/

theorem past_move (s : Simulator τ) (m : SimulatorMove τ) :
    (s.move m).past = (s.cameras, s.history ++ (s.opens? m).toList) := by
  have still : s.past = (s.cameras, s.history ++ []) := by rw [List.append_nil, past]
  cases m with
  | setFaults => exact still
  | acquire facing =>
    rcases s.acquire_refused_or_done facing with ⟨e, faults, eq⟩ | ⟨spec, found, -, eq⟩
    all_goals simp only [Simulator.move, opens?, eq]
    · exact still
    · exact past_opened found
  | call i c => exact (past_call i c).trans still
  | requestFrame i ticket => exact (past_requestFrame i ticket).trans still
  | fire i => exact (past_fire i).trans still

theorem past_run (s : Simulator τ) (moves : List (SimulatorMove τ)) :
    (s.run moves).past = (s.cameras, s.history ++ s.along opens? moves) := by
  have history (s : Simulator τ) (m : SimulatorMove τ) :
      (s.move m).history = s.history ++ (s.opens? m).toList := congrArg Prod.snd (s.past_move m)
  refine Prod.ext ?_ (run_grows history s moves)
  exact run_keeps (P := fun t => t.cameras = s.cameras)
    (fun t m same => (congrArg Prod.fst (t.past_move m)).trans same) rfl moves

/-- Two devices are never open together, and the first open is what makes the peak. -/
theorem maxOpen_move (h : s.maxOpen = min 1 s.opens) (m : SimulatorMove τ) :
    (s.move m).maxOpen = min 1 (s.move m).opens := by
  cases m with
  | setFaults => exact h
  | acquire facing =>
    rcases s.acquire_refused_or_done facing with ⟨e, faults, eq⟩ | ⟨spec, -, closed, eq⟩
    all_goals simp only [Simulator.move, eq]
    · exact h
    · simp only [Simulator.opened, h, closed]
      omega
  | call i c =>
    simp only [Simulator.move, call]
    repeat' (first | exact h | split)
  | requestFrame i ticket =>
    simp only [Simulator.move, requestFrame]
    split <;> exact h
  | fire i =>
    simp only [Simulator.move, fire]
    repeat' (first | exact h | split)

/-- The devices that are open are counted. -/
theorem Holds.countP_unreleased (h : s.Holds held) :
    s.devices.countP (fun d => !d.released) = s.openNow := by
  rw [h.openNow]
  cases held with
  | none =>
    refine List.countP_eq_zero.2 fun d mem => ?_
    obtain ⟨i, get⟩ := List.getElem?_of_mem mem
    simpa using h.released i d get
  | some i =>
    -- were the held device released, there would be none
    obtain ⟨d, get, unreleased⟩ := h.device
    obtain ⟨lt, eq⟩ := List.getElem?_eq_some_iff.1 get
    have others :
        (s.devices.set i { d with released := true }).countP (fun d => !d.released) = 0 := by
      refine List.countP_eq_zero.2 fun e mem => ?_
      obtain ⟨j, get'⟩ := List.getElem?_of_mem mem
      rw [List.getElem?_set] at get'
      split at get'
      · cases get'
        simp
      · next other => simpa [other] using h.released j e get'
    have counted : 0 < s.devices.countP (fun d => !d.released) :=
      List.countP_pos_iff.2 ⟨d, List.mem_of_getElem? get, by simp [unreleased]⟩
    have same : s.devices.countP (fun d => !d.released) - 1 + 0 = 0 := by
      simpa [List.countP_set lt, eq, unreleased] using others
    show s.devices.countP (fun d => !d.released) = 1
    omega

/-- An open finds the camera in use if a device is open. -/
theorem Holds.exists_unreleased_iff (h : s.Holds held) :
    (∃ d ∈ s.devices, d.released = false) ↔ 0 < s.openNow := by
  rw [← h.countP_unreleased, List.countP_pos_iff]
  simp

/-! ## Devices that are released -/

/-- A device that is open no more: it refuses whatever can be refused, and what is asked of it
changes nothing. -/
structure Retired (s : Simulator τ) (i : Nat) : Prop where
  released : ∃ d, s.devices[i]? = some d ∧ d.released = true
  refuses : ∀ c, c ≠ .release → c ≠ .cancelAutoFocus → ∃ e, s.call i c = (.refused e, s)
  refusesTicket : ∀ ticket, s.requestFrame i ticket = (.refused .notOpen, s)
  release : s.call i .release = (.done (), s)
  cancelAutoFocus : s.call i .cancelAutoFocus = (.done (), s)

theorem retired_of_released (get : s.devices[i]? = some d) (gone : d.released = true) :
    s.Retired i where
  released := ⟨d, get, gone⟩
  refuses c lasting steering := by
    rw [call_of_released get gone]
    obtain ⟨-, ⟨-, rfl | rfl⟩ | ⟨e, refused, -⟩⟩ := d.call_of_released gone s.faults c
    · exact absurd rfl lasting
    · exact absurd rfl steering
    · exact ⟨e, congrArg (·, s) refused⟩
  refusesTicket := requestFrame_of_released get gone
  release := by simp [call_of_released get gone, SimulatedDevice.call, gone]
  cancelAutoFocus := by simp [call_of_released get gone, SimulatedDevice.call]

/-- Whatever comes back from it, a release ends a device. -/
theorem released_release (known : i < s.devices.length) :
    ∃ d, (s.call i .release).2.devices[i]? = some d ∧ d.released = true := by
  have get := List.getElem?_eq_getElem known
  refine ⟨(s.devices[i].call s.faults .release).2, ?_, ?_⟩
  · rw [devices_call get, List.getElem?_set_self known]
  · cases gone : s.devices[i].released <;> simp [SimulatedDevice.call, gone]

theorem retired_run (known : i < s.devices.length) (moves : List (SimulatorMove τ)) :
    (s.run (.call i .release :: moves)).Retired i := by
  obtain ⟨d, get, gone⟩ := released_release known
  obtain ⟨e, get', gone'⟩ := released_run get gone moves
  exact retired_of_released get' gone'

/-! ## The books -/

/-- How an open ends is told by the cameras, the faults and the devices. -/
theorem Holds.acquire_answers (h : s.Holds held) (facing : Facing) :
    let missing := ∀ spec ∈ s.cameras, spec.sensor.facing ≠ facing
    let failing := 0 < s.faults.failingOpens
    let used := ∃ d ∈ s.devices, d.released = false
    (missing ∧ s.acquire facing = (.refused (.noSuchCamera facing), s)) ∨
    (¬missing ∧ failing ∧ s.acquire facing =
      (.refused (.openFailed facing "simulated hardware failure"), s.failedOnce)) ∨
    (¬missing ∧ ¬failing ∧ used ∧ s.acquire facing = (.refused .inUse, s)) ∨
    (¬missing ∧ ¬failing ∧ ¬used ∧ ∃ spec ∈ s.cameras, spec.sensor.facing = facing ∧
      s.acquire facing = (.done s.devices.length, s.opened spec)) := by
  intro missing failing used
  have present {spec : CameraSpec} (found : s.camera? facing = some spec) : ¬missing := by
    intro none
    rw [camera?_eq_none_iff.2 none] at found
    cases found
  rcases s.acquire_outcomes facing with ⟨none, eq⟩ |
    ⟨spec, found, ⟨failing, eq⟩ | ⟨sound, open_, eq⟩ | ⟨sound, closed, eq⟩⟩
  · exact .inl ⟨camera?_eq_none_iff.1 none, eq⟩
  · exact .inr (.inl ⟨present found, failing, eq⟩)
  · exact .inr (.inr (.inl ⟨present found, Nat.not_lt.2 (Nat.le_of_eq sound),
      h.exists_unreleased_iff.2 open_, eq⟩))
  · refine .inr (.inr (.inr ⟨present found, Nat.not_lt.2 (Nat.le_of_eq sound), fun used => ?_, spec,
      List.mem_of_find?_eq_some found, camera?_facing found, eq⟩))
    exact absurd (h.exists_unreleased_iff.1 used) (by omega)

/-- Whatever is done with a service and with the devices that it ever opened, its counters tell how
many devices were opened and how many are open, which is one at most. An open fails for a camera
that is missing, else because of an injected failure, which it uses up, else because a device is
open, and no such failure changes anything more. A device that was released once, however the
release ended, is open no more. -/
theorem accounts_balance (cameras : List CameraSpec) (moves : List (SimulatorMove τ)) :
    let s : Simulator τ := ofCameras cameras
    let t := s.run moves
    let opened := s.along opens? moves
    (t.openNow = t.devices.countP (fun d => !d.released) ∧ t.openNow ≤ 1 ∧
      t.history = opened ∧ t.opens = t.history.length ∧ t.opens = t.releases + t.openNow ∧
      t.maxOpen = if opened = [] then 0 else 1) ∧
    (∀ facing,
      let missing := ∀ spec ∈ cameras, spec.sensor.facing ≠ facing
      let failing := 0 < t.faults.failingOpens
      let used := ∃ d ∈ t.devices, d.released = false
      (missing ∧ t.acquire facing = (.refused (.noSuchCamera facing), t)) ∨
      (¬missing ∧ failing ∧ t.acquire facing =
        (.refused (.openFailed facing "simulated hardware failure"), t.failedOnce)) ∨
      (¬missing ∧ ¬failing ∧ used ∧ t.acquire facing = (.refused .inUse, t)) ∨
      (¬missing ∧ ¬failing ∧ ¬used ∧ ∃ spec ∈ cameras, spec.sensor.facing = facing ∧
        t.acquire facing = (.done t.devices.length, t.opened spec))) ∧
    ∀ before i after, moves = before ++ .call i .release :: after →
      i < (s.run before).devices.length → t.Retired i := by
  intro s t opened
  obtain ⟨held, holds⟩ : ∃ held, t.Holds held := exists_holds_run cameras moves
  have past : t.past = (cameras, opened) := s.past_run moves
  have history : t.history = opened := congrArg Prod.snd past
  have opens : t.opens = t.history.length := holds.opens.trans (List.length_map _).symm
  have peak : t.maxOpen = min 1 t.opens :=
    run_keeps (P := fun s => s.maxOpen = min 1 s.opens) (fun _ m h => maxOpen_move h m) rfl moves
  refine ⟨⟨holds.countP_unreleased.symm, holds.openNow_le_one, history, opens, holds.balance, ?_⟩,
    fun facing => ?_, fun before i after eq known => ?_⟩
  · rw [peak, opens, history]
    cases opened <;> simp
  · have answers := holds.acquire_answers facing
    rwa [show t.cameras = cameras from congrArg Prod.fst past] at answers
  · have whole : t = (s.run before).run (.call i .release :: after) := by
      rw [← run_append, ← eq]
    rw [whole]
    exact retired_run known after

/-- One of two opens fails, one finds the camera in use, and a release that is reported to have
failed lets the next one through. -/
def mishaps : List (SimulatorMove Nat) :=
  [.setFaults { failingOpens := 1, failRelease := true }, .acquire .front, .acquire .back,
    .acquire .front, .requestFrame 0 7, .call 0 .release, .acquire .front, .call 0 .startPreview,
    .call 0 .release]

theorem accounts_balance_mishaps :
    let t := (ofCameras dual).run mishaps
    t.openNow = 1 ∧ t.history = [.back, .front] ∧ t.opens = t.releases + 1 ∧ t.maxOpen = 1 ∧
      t.acquire .back = (.refused .inUse, t) ∧ t.Retired 0 := by
  intro t
  obtain ⟨⟨-, -, history, -, balance, peak⟩, -, retired⟩ := accounts_balance dual mishaps
  have opened : (ofCameras dual).along opens? mishaps = [.back, .front] := by decide
  have one : t.openNow = 1 := by decide
  rw [opened] at history peak
  exact ⟨one, history, one ▸ balance, peak, by decide,
    retired (mishaps.take 5) 0 (mishaps.drop 6) (by decide) (by decide)⟩

end Viewfinder.Simulator
