import Viewfinder.Proofs.Holding
import Viewfinder.Proofs.Previewing

/-!
# What is done with a simulator

Cameras are opened, devices called and released, tickets left, faults set and due frames arrive, in
any order and on any device that was ever opened: `Simulator.run` makes a list of such moves. A move
makes of each device what `SimulatedDevice.move` says and opens one more at most (`getElem?_move`).
It leaves one device unreleased at most (`Holds.move`) and no ticket unserved (`Serves.move`).
-/

namespace Viewfinder

/-- What can be done with a simulator. -/
inductive SimulatorMove (τ : Type) where
  | setFaults (faults : SimulatorFaults)
  | acquire (facing : Facing)
  | call (device : Nat) (c : DeviceCall)
  | requestFrame (device : Nat) (ticket : τ)
  /-- A frame that is due arrives. -/
  | fire (device : Nat)
deriving DecidableEq, Repr

def SimulatorMove.ticket? {τ : Type} : SimulatorMove τ → Option τ
  | requestFrame _ ticket => some ticket
  | _ => none

namespace SimulatedDevice

variable {τ : Type} {d : SimulatedDevice τ}

/-- The device with the number `i` after a move. -/
def move (d : SimulatedDevice τ) (faults : SimulatorFaults) (i : Nat) :
    SimulatorMove τ → SimulatedDevice τ
  | .setFaults _ | .acquire _ => d
  | .call j c => if j = i then (d.call faults c).2 else d
  | .requestFrame j ticket => if j = i then (d.requestFrame ticket).2 else d
  | .fire j => if j = i then d.fired else d

/-- A released device refuses every call but a release and the cancelling of autofocus, and none
changes it. -/
theorem call_of_released (gone : d.released = true) (faults : SimulatorFaults) (c : DeviceCall) :
    (d.call faults c).2 = d ∧
      ((d.call faults c).1 = .done () ∧ (c = .release ∨ c = .cancelAutoFocus) ∨
        ∃ e, (d.call faults c).1 = .refused e ∧ c ≠ .release ∧ c ≠ .cancelAutoFocus) := by
  cases c with
  | setOutputRotation | setFocusAreas =>
    cases failing : faults.failParameters <;> simp [call, gone, failing]
  | _ => simp [call, gone]

theorem requestFrame_of_released (gone : d.released = true) (ticket : τ) :
    d.requestFrame ticket = (.refused .notOpen, d) := by
  simp [requestFrame, gone]

/-- What is released stays so. -/
theorem released_move (gone : d.released = true) (faults : SimulatorFaults) (i : Nat)
    (m : SimulatorMove τ) : (d.move faults i m).released = true := by
  cases m with
  | setFaults | acquire => exact gone
  | call j c =>
    simp only [move, (call_of_released gone faults c).1, ite_self]
    exact gone
  | requestFrame j ticket =>
    simp only [move, requestFrame_of_released gone, ite_self]
    exact gone
  | fire j =>
    simp only [move]
    split <;> exact gone

/-- Only a request leaves a ticket. -/
theorem ticket_move {faults : SimulatorFaults} {i : Nat} {m : SimulatorMove τ} {ticket : τ}
    (waits : (d.move faults i m).ticket = some ticket) :
    d.ticket = some ticket ∨ m = .requestFrame i ticket := by
  cases m with
  | setFaults | acquire => exact .inl waits
  | call j c =>
    refine .inl ?_
    simp only [move] at waits
    split at waits
    · rw [ticket_call] at waits
      exact (Option.ite_none_left_eq_some.1 waits).2
    · exact waits
  | requestFrame j other =>
    simp only [move] at waits
    split at waits
    · next own =>
      subst own
      unfold requestFrame at waits
      split at waits
      · exact .inl waits
      · cases waits
        exact .inr rfl
    · exact .inl waits
  | fire j =>
    refine .inl ?_
    simp only [move] at waits
    split at waits
    · exact (Option.ite_none_right_eq_some.1 waits).2
    · exact waits

end SimulatedDevice

namespace Simulator

variable {τ α β : Type} {s : Simulator τ} {held : Option Nat} {i : Nat} {d : SimulatedDevice τ}

def move (s : Simulator τ) : SimulatorMove τ → Simulator τ
  | .setFaults faults => { s with faults := faults }
  | .acquire facing => (s.acquire facing).2
  | .call i c => (s.call i c).2
  | .requestFrame i ticket => (s.requestFrame i ticket).2
  | .fire i => (s.fire i).2

def run (s : Simulator τ) (moves : List (SimulatorMove τ)) : Simulator τ := moves.foldl move s

/-- Everything that `look` sees along some moves. -/
def along (look : Simulator τ → SimulatorMove τ → Option α) (s : Simulator τ) :
    List (SimulatorMove τ) → List α
  | [] => []
  | m :: rest => (look s m).toList ++ (s.move m).along look rest

/-! ## Runs -/

theorem run_append (s : Simulator τ) (before after : List (SimulatorMove τ)) :
    s.run (before ++ after) = (s.run before).run after :=
  List.foldl_append

theorem run_keeps {P : Simulator τ → Prop} (step : ∀ s m, P s → P (s.move m)) (start : P s)
    (moves : List (SimulatorMove τ)) : P (s.run moves) := by
  induction moves generalizing s with
  | nil => exact start
  | cons m rest ih => exact ih (step s m start)

/-- What is seen along a run is what is seen at its moves. -/
theorem mem_along_iff {look : Simulator τ → SimulatorMove τ → Option α}
    {moves : List (SimulatorMove τ)} {a : α} : a ∈ s.along look moves ↔
      ∃ before m after, moves = before ++ m :: after ∧ look (s.run before) m = some a := by
  induction moves generalizing s with
  | nil => simp [along]
  | cons m rest ih =>
    rw [along, List.mem_append, Option.mem_toList, ih]
    constructor
    · rintro (now | ⟨before, m', after, rfl, seen⟩)
      · exact ⟨[], m, rest, rfl, now⟩
      · exact ⟨m :: before, m', after, rfl, seen⟩
    · rintro ⟨_ | ⟨first, before⟩, m', after, eq, seen⟩
      · obtain ⟨rfl, rfl⟩ := List.cons.inj eq
        exact .inl seen
      · obtain ⟨rfl, rfl⟩ := List.cons.inj eq
        exact .inr ⟨before, m', after, rfl, seen⟩

/-- A list to which each move adds what is seen at it. -/
theorem run_grows {look : Simulator τ → SimulatorMove τ → Option α} {f : Simulator τ → List α}
    (step : ∀ s m, f (s.move m) = f s ++ (look s m).toList) (s : Simulator τ)
    (moves : List (SimulatorMove τ)) : f (s.run moves) = f s ++ s.along look moves := by
  induction moves generalizing s with
  | nil => exact (List.append_nil _).symm
  | cons m rest ih =>
    rw [along, ← List.append_assoc, ← step]
    exact ih (s.move m)

theorem map_along (look : Simulator τ → SimulatorMove τ → Option α) (f : α → β) (s : Simulator τ)
    (moves : List (SimulatorMove τ)) :
    (s.along look moves).map f = s.along (fun s m => (look s m).map f) moves := by
  induction moves generalizing s with
  | nil => rfl
  | cons m rest ih => simp [along, ih, Option.toList_map]

/-! ## One device -/

theorem call_of_released (get : s.devices[i]? = some d) (gone : d.released = true)
    (c : DeviceCall) : s.call i c = ((d.call s.faults c).1, s) :=
  call_same get (Prod.ext rfl (SimulatedDevice.call_of_released gone s.faults c).1)

theorem requestFrame_of_released (get : s.devices[i]? = some d) (gone : d.released = true)
    (ticket : τ) : s.requestFrame i ticket = (.refused .notOpen, s) := by
  simp [requestFrame, get, SimulatedDevice.requestFrame_of_released gone, setDevice_self get]

theorem devices_call (get : s.devices[i]? = some d) (c : DeviceCall) :
    (s.call i c).2.devices = s.devices.set i (d.call s.faults c).2 := by
  simp only [call, get]
  split <;> rfl

theorem devices_requestFrame (get : s.devices[i]? = some d) (ticket : τ) :
    (s.requestFrame i ticket).2.devices = s.devices.set i (d.requestFrame ticket).2 := by
  simp only [requestFrame, get, setDevice]

/-- An open is refused and changes nothing but the faults, or there is one device more. -/
theorem acquire_refused_or_done (s : Simulator τ) (facing : Facing) :
    (∃ e faults, s.acquire facing = (.refused e, { s with faults := faults })) ∨
      ∃ spec, s.camera? facing = some spec ∧ s.openNow = 0 ∧
        s.acquire facing = (.done s.devices.length, s.opened spec) := by
  rcases s.acquire_outcomes facing with ⟨-, eq⟩ |
    ⟨spec, found, ⟨-, eq⟩ | ⟨-, -, eq⟩ | ⟨-, closed, eq⟩⟩
  · exact .inl ⟨_, s.faults, eq⟩
  · exact .inl ⟨_, _, eq⟩
  · exact .inl ⟨_, s.faults, eq⟩
  · exact .inr ⟨spec, found, closed, eq⟩

/-- A move makes of each device what it makes of one alone, and opens a fresh one at most. -/
theorem getElem?_move (s : Simulator τ) (m : SimulatorMove τ) (i : Nat) :
    (s.move m).devices[i]? = s.devices[i]?.map (·.move s.faults i m) ∨
      i = s.devices.length ∧ ∃ spec, (s.move m).devices[i]? = some (.ofSpec spec) := by
  have unmoved : s.devices[i]? = s.devices[i]?.map fun d => d := Option.map_id'.symm
  -- a move on the device `j` sets that device, and a device that there is not is left alone
  have moved {t : Simulator τ} {j : Nat} {f : SimulatedDevice τ → SimulatedDevice τ}
      (known : ∀ d, s.devices[j]? = some d → t.devices = s.devices.set j (f d))
      (unknown : s.devices[j]? = none → t = s) :
      t.devices[i]? = s.devices[i]?.map fun d => if j = i then f d else d := by
    cases get : s.devices[j]? with
    | none =>
      rw [unknown get]
      by_cases own : j = i
      · rw [← own, get, Option.map_none]
      · simpa only [if_neg own] using unmoved
    | some d =>
      rw [known d get]
      by_cases own : j = i
      · have lt := (List.getElem?_eq_some_iff.1 get).1
        simp only [← own, get, if_true, Option.map_some, List.getElem?_set_self lt]
      · simpa only [List.getElem?_set_ne own, if_neg own] using unmoved
  cases m with
  | setFaults => exact .inl unmoved
  | acquire facing =>
    rcases s.acquire_refused_or_done facing with ⟨e, faults, eq⟩ | ⟨spec, -, -, eq⟩
    all_goals simp only [Simulator.move, eq]
    · exact .inl unmoved
    · rcases Nat.lt_trichotomy i s.devices.length with old | rfl | beyond
      · exact .inl ((List.getElem?_append_left old).trans unmoved)
      · exact .inr ⟨rfl, spec, by simp [Simulator.opened]⟩
      · left
        rw [List.getElem?_eq_none (by simpa [Simulator.opened] using Nat.succ_le_of_lt beyond),
          List.getElem?_eq_none (Nat.le_of_lt beyond), Option.map_none]
  | call j c =>
    exact .inl (moved (t := (s.call j c).2) (fun d get => devices_call get c)
      fun none => by simp [call, none])
  | requestFrame j ticket =>
    exact .inl (moved (t := (s.requestFrame j ticket).2)
      (fun d get => devices_requestFrame get ticket) fun none => by simp [requestFrame, none])
  | fire j =>
    exact .inl (moved (t := (s.fire j).2) (fun d get => (fire_eq get).2)
      fun none => by simp [fire, none])

/-- Where a device is after a move, there was one before, or it is fresh. -/
theorem device_of_move {m : SimulatorMove τ} (get : (s.move m).devices[i]? = some d) :
    (∃ e, s.devices[i]? = some e ∧ d = e.move s.faults i m) ∨ ∃ spec, d = .ofSpec spec := by
  rcases s.getElem?_move m i with eq | ⟨-, spec, fresh⟩
  · obtain ⟨e, get', rfl⟩ := Option.map_eq_some_iff.1 (eq.symm.trans get)
    exact .inl ⟨e, get', rfl⟩
  · exact .inr ⟨spec, Option.some.inj (get.symm.trans fresh)⟩

/-! ## What every move keeps -/

theorem Holds.move (h : s.Holds held) (m : SimulatorMove τ) : ∃ held, (s.move m).Holds held := by
  cases m with
  | setFaults faults => exact ⟨held, h.setFaults faults⟩
  | acquire facing =>
    rcases s.acquire_refused_or_done facing with ⟨e, faults, eq⟩ | ⟨spec, -, closed, eq⟩
    all_goals simp only [Simulator.move, eq]
    · exact ⟨held, h.setFaults faults⟩
    · obtain rfl : held = none := by
        have count := h.openNow
        cases held <;> simp_all
      exact ⟨_, h.opened spec⟩
  | call i c =>
    cases get : s.devices[i]? with
    | none => exact ⟨held, by simpa [Simulator.move, Simulator.call, get] using h⟩
    | some d =>
      cases gone : d.released with
      | true => exact ⟨held, by simpa [Simulator.move, call_of_released get gone] using h⟩
      | false =>
        obtain rfl := (h.released i d get).1 gone
        obtain ⟨-, -, -, -, -, -, -, after⟩ := h.call c
        exact ⟨_, after⟩
  | requestFrame i ticket =>
    cases get : s.devices[i]? with
    | none => exact ⟨held, by simpa [Simulator.move, Simulator.requestFrame, get] using h⟩
    | some d =>
      cases gone : d.released with
      | true => exact ⟨held, by simpa [Simulator.move, requestFrame_of_released get gone] using h⟩
      | false =>
        obtain rfl := (h.released i d get).1 gone
        exact ⟨_, (h.requestFrame ticket).2⟩
  | fire i => exact ⟨held, h.fire i⟩

theorem Serves.move (h : s.Serves) (m : SimulatorMove τ) : (s.move m).Serves := by
  cases m with
  | setFaults faults => exact h
  | acquire facing => exact h.acquire facing
  | call i c => exact h.call i c
  | requestFrame i ticket => exact h.requestFrame i ticket
  | fire i => exact h.fire i

theorem Serves.run (h : s.Serves) (moves : List (SimulatorMove τ)) : (s.run moves).Serves :=
  run_keeps (fun _ m h => h.move m) h moves

theorem exists_holds_run (cameras : List CameraSpec) (moves : List (SimulatorMove τ)) :
    ∃ held, ((ofCameras cameras).run moves).Holds held :=
  run_keeps (P := fun s => ∃ held, s.Holds held) (fun _ m ⟨_, h⟩ => h.move m)
    ⟨none, holds_ofCameras cameras⟩ moves

theorem serves_run (cameras : List CameraSpec) (moves : List (SimulatorMove τ)) :
    ((ofCameras cameras).run moves).Serves :=
  Serves.run (fun _ mem => absurd mem List.not_mem_nil) moves

/-- A device that is released is never open again. -/
theorem released_run (get : s.devices[i]? = some d) (gone : d.released = true)
    (moves : List (SimulatorMove τ)) :
    ∃ e, (s.run moves).devices[i]? = some e ∧ e.released = true := by
  refine run_keeps (P := fun t => ∃ e, t.devices[i]? = some e ∧ e.released = true)
    (fun t m ⟨e, get, gone⟩ => ?_) ⟨d, get, gone⟩ moves
  rcases t.getElem?_move m i with eq | ⟨rfl, -⟩
  · rw [get, Option.map_some] at eq
    exact ⟨_, eq, e.released_move gone t.faults i m⟩
  · simp at get

end Simulator

end Viewfinder
