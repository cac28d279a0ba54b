import Viewfinder.Camera.Simulator

/-!
# The device that is held

Of all devices that a simulator ever opened at most one is unreleased. `Simulator.Holds` names it
and says that the counters agree with it; each operation is told by what it does to the held device,
and an open by the four ways in which it can end (`acquire_outcomes`). What devices do not show of
their tickets is left alone by tickets and frames (`map_requestFrame`, `map_fire`).
-/

namespace Viewfinder

namespace SimulatedDevice

variable {τ : Type}

/-- An unreleased device never answers that it is not open, only the focusing crashes, which leaves
no trace, and a release is what ends the device. -/
theorem call_of_unreleased {d : SimulatedDevice τ} (open_ : d.released = false)
    (faults : SimulatorFaults) (c : DeviceCall) :
    (d.call faults c).1 ≠ .refused .notOpen ∧
      ((d.call faults c).1 = .crashed → c = .autoFocus ∧ (d.call faults c).2 = d) ∧
      (d.call faults c).2.released = decide (c = .release) := by
  cases c <;> simp [call, open_] <;> split <;> simp [open_]

/-- The device after a frame that was due. -/
def fired (d : SimulatedDevice τ) : SimulatedDevice τ :=
  { d with due := d.due - 1, ticket := if d.released || !d.previewing then d.ticket else none }

theorem spec_call (d : SimulatedDevice τ) (faults : SimulatorFaults) (c : DeviceCall) :
    (d.call faults c).2.spec = d.spec := by
  cases c <;> simp only [call] <;> repeat' (first | rfl | split)

/-- Nothing but a release drops a ticket. -/
theorem ticket_call (d : SimulatedDevice τ) (faults : SimulatorFaults) (c : DeviceCall) :
    (d.call faults c).2.ticket = if c = .release ∧ d.released = false then none else d.ticket := by
  cases c with
  | release => cases gone : d.released <;> simp [call, gone]
  | _ =>
    simp only [call, reduceCtorEq, false_and, if_false]
    repeat' (first | rfl | split)

theorem requestFrame_of_unreleased {d : SimulatedDevice τ} (open_ : d.released = false)
    (ticket : τ) :
    (d.requestFrame ticket).1 = .done () ∧ (d.requestFrame ticket).2.released = false := by
  simp [requestFrame, open_]

end SimulatedDevice

namespace Simulator

variable {τ : Type} {s : Simulator τ} {held : Option Nat}

/-! ## One device -/

section

variable {i : Nat} {d e : SimulatedDevice τ} {c : DeviceCall} {outcome : Outcome Unit}

theorem setDevice_self (get : s.devices[i]? = some d) : s.setDevice i d = s := by
  obtain ⟨lt, eq⟩ := List.getElem?_eq_some_iff.1 get
  rw [setDevice, ← eq, List.set_getElem_self]

/-- A call that does not release the device changes that device only. -/
theorem call_eq (get : s.devices[i]? = some d) (made : d.call s.faults c = (outcome, e))
    (kept : e.released = d.released) : s.call i c = (outcome, s.setDevice i e) := by
  simp [call, get, made, kept]

theorem call_same (get : s.devices[i]? = some d) (made : d.call s.faults c = (outcome, d)) :
    s.call i c = (outcome, s) := by
  rw [call_eq get made rfl, setDevice_self get]

/-- A frame that is due, with what becomes of its device. -/
theorem fire_eq (get : s.devices[i]? = some d) :
    (s.fire i).1 =
        (if d.released || !d.previewing then none
          else d.ticket.map fun ticket => (ticket, frame s.faults s.frames d.preview)) ∧
      (s.fire i).2.devices = s.devices.set i d.fired := by
  cases waits : d.ticket <;> cases gone : d.released <;> cases runs : d.previewing <;>
    simp [fire, get, waits, gone, runs, SimulatedDevice.fired, setDevice]

/-- A frame arrives from a preview that runs, for the ticket that waits there. -/
theorem handed_of_fire {ticket : τ} {f : Frame} (get : s.devices[i]? = some d)
    (handed : (s.fire i).1 = some (ticket, f)) :
    (d.released || !d.previewing) = false ∧ d.ticket = some ticket ∧
      f = frame s.faults s.frames d.preview := by
  rw [(fire_eq get).1] at handed
  split at handed
  · cases handed
  · next runs =>
    obtain ⟨_, waits, eq⟩ := Option.map_eq_some_iff.1 handed
    cases eq
    exact ⟨by simpa using runs, waits, rfl⟩

end

/-! ## What is seen of all devices -/

section

variable {β : Type} {look : SimulatedDevice τ → β}

theorem map_setDevice {i : Nat} {d e : SimulatedDevice τ} (get : s.devices[i]? = some d)
    (same : look e = look d) : (s.setDevice i e).devices.map look = s.devices.map look := by
  have back : (s.devices.map look)[i]? = some (look e) := by
    rw [List.getElem?_map, get, same]
    rfl
  obtain ⟨lt, eq⟩ := List.getElem?_eq_some_iff.1 back
  simp only [setDevice, List.map_set, ← eq, List.set_getElem_self]

variable (same : ∀ d ticket due, look { d with ticket := ticket, due := due } = look d) (i : Nat)

include same

/-- A ticket that is left shows in the tickets only, and in what is due. -/
theorem map_requestFrame (ticket : τ) :
    (s.requestFrame i ticket).2.devices.map look = s.devices.map look := by
  cases get : s.devices[i]? with
  | none => simp [requestFrame, get]
  | some d =>
    simp only [requestFrame, get]
    refine map_setDevice get ?_
    unfold SimulatedDevice.requestFrame
    split
    · rfl
    · exact same d _ _

theorem map_fire : (s.fire i).2.devices.map look = s.devices.map look := by
  cases get : s.devices[i]? with
  | none => simp [fire, get]
  | some d =>
    rw [(fire_eq get).2]
    exact map_setDevice get (same d _ _)

end

/-! ## Cameras and history -/

/-- The cameras of a service and the devices that it opened. -/
def past (s : Simulator τ) : List CameraSpec × List Facing := (s.cameras, s.history)

theorem past_call (i : Nat) (c : DeviceCall) : (s.call i c).2.past = s.past := by
  cases get : s.devices[i]? with
  | none => simp [Simulator.call, get]
  | some d =>
    have kept : (s.setDevice i (d.call s.faults c).2).history = s.history :=
      map_setDevice get (congrArg (·.sensor.facing) (d.spec_call s.faults c))
    simp only [Simulator.call, get]
    split <;> exact Prod.ext rfl kept

theorem past_requestFrame (i : Nat) (ticket : τ) : (s.requestFrame i ticket).2.past = s.past := by
  refine Prod.ext ?_ (map_requestFrame (fun _ _ _ => rfl) i ticket)
  show (s.requestFrame i ticket).2.cameras = s.cameras
  unfold Simulator.requestFrame
  split <;> rfl

theorem past_fire (i : Nat) : (s.fire i).2.past = s.past := by
  refine Prod.ext ?_ (map_fire (fun _ _ _ => rfl) i)
  show (s.fire i).2.cameras = s.cameras
  simp only [Simulator.fire]
  repeat' (first | rfl | split)

/-! ## Holding -/

/-- `held` is the only unreleased device of the service, if there is one. -/
structure Holds (s : Simulator τ) (held : Option Nat) : Prop where
  known : ∀ i, held = some i → i < s.devices.length
  released : ∀ i d, s.devices[i]? = some d → (d.released = false ↔ held = some i)
  openNow : s.openNow = held.toList.length
  maxOpen : s.maxOpen ≤ 1
  opens : s.opens = s.devices.length
  balance : s.opens = s.releases + s.openNow

theorem holds_ofCameras (cameras : List CameraSpec) :
    (ofCameras cameras : Simulator τ).Holds none := by
  constructor <;> simp [ofCameras]

theorem Holds.openNow_le_one (h : s.Holds held) : s.openNow ≤ 1 := by
  rw [h.openNow]
  cases held <;> simp

/-- The held device as the service keeps it. -/
theorem Holds.device {i : Nat} (h : s.Holds (some i)) :
    ∃ d, s.devices[i]? = some d ∧ d.released = false := by
  have lt := h.known i rfl
  exact ⟨s.devices[i], List.getElem?_eq_getElem lt,
    (h.released i _ (List.getElem?_eq_getElem lt)).2 rfl⟩

/-- A service holds one device at most. -/
theorem Holds.unique {a b : Option Nat} (ha : s.Holds a) (hb : s.Holds b) : a = b := by
  cases a with
  | none =>
    cases b with
    | none => rfl
    | some j =>
      obtain ⟨d, get, unreleased⟩ := hb.device
      exact (ha.released j d get).1 unreleased
  | some i =>
    obtain ⟨d, get, unreleased⟩ := ha.device
    exact ((hb.released i d get).1 unreleased).symm

theorem Holds.setFaults (h : s.Holds held) (faults : SimulatorFaults) :
    { s with faults := faults }.Holds held :=
  ⟨h.known, h.released, h.openNow, h.maxOpen, h.opens, h.balance⟩

/-- Replacing a device by one that is unreleased just as it was changes nothing that counts. -/
theorem Holds.setDevice (h : s.Holds held) {i : Nat} {d after : SimulatedDevice τ}
    (at_ : s.devices[i]? = some d) (same : after.released = d.released) :
    (s.setDevice i after).Holds held where
  known j eq := by simpa [Simulator.setDevice] using h.known j eq
  released j e get := by
    simp only [Simulator.setDevice, List.getElem?_set] at get
    split at get
    · next eq =>
      subst eq
      have lt : i < s.devices.length := (List.getElem?_eq_some_iff.1 at_).1
      rw [if_pos lt, Option.some.injEq] at get
      rw [← get, same]
      exact h.released i d at_
    · exact h.released j e get
  openNow := h.openNow
  maxOpen := h.maxOpen
  opens := by simpa [Simulator.setDevice] using h.opens
  balance := h.balance

/-- The service with one device more, as a successful open leaves it. -/
def opened (s : Simulator τ) (spec : CameraSpec) : Simulator τ :=
  { s with
    openNow := s.openNow + 1
    maxOpen := max s.maxOpen (s.openNow + 1)
    opens := s.opens + 1
    devices := s.devices ++ [.ofSpec spec] }

theorem Holds.opened (h : s.Holds none) (spec : CameraSpec) :
    (s.opened spec).Holds (some s.devices.length) := by
  have closed : s.openNow = 0 := h.openNow
  refine ⟨by simp [Simulator.opened], ?_, by simp [Simulator.opened, closed],
    by simp [Simulator.opened, closed, h.maxOpen], by simp [Simulator.opened, h.opens], ?_⟩
  · intro i d get
    simp only [Simulator.opened, List.getElem?_append] at get
    split at get
    · next lt =>
      have before := h.released i d get
      simp only [reduceCtorEq, iff_false] at before
      simp only [Option.some.injEq]
      exact ⟨fun eq => absurd eq before, fun eq => by omega⟩
    · next ge =>
      cases last : i - s.devices.length with
      | succ n => simp [last] at get
      | zero =>
        simp only [last, List.getElem?_cons_zero, Option.some.injEq] at get
        simp [← get, SimulatedDevice.ofSpec]
        omega
  · have := h.balance
    simp only [Simulator.opened]
    omega

/-- The service with one of its injected failures used up. -/
def failedOnce (s : Simulator τ) : Simulator τ :=
  { s with faults := { s.faults with failingOpens := s.faults.failingOpens - 1 } }

/-- The ways in which an open can end. -/
theorem acquire_outcomes (s : Simulator τ) (facing : Facing) :
    (s.camera? facing = none ∧ s.acquire facing = (.refused (.noSuchCamera facing), s)) ∨
    ∃ spec, s.camera? facing = some spec ∧
      (0 < s.faults.failingOpens ∧ s.acquire facing =
          (.refused (.openFailed facing "simulated hardware failure"), s.failedOnce) ∨
        s.faults.failingOpens = 0 ∧ 0 < s.openNow ∧ s.acquire facing = (.refused .inUse, s) ∨
        s.faults.failingOpens = 0 ∧ s.openNow = 0 ∧
          s.acquire facing = (.done s.devices.length, s.opened spec)) := by
  cases found : s.camera? facing with
  | none => exact .inl ⟨rfl, by simp [acquire, found]⟩
  | some spec =>
    refine .inr ⟨spec, rfl, ?_⟩
    by_cases failing : 0 < s.faults.failingOpens
    · exact .inl ⟨failing, by simp [acquire, found, failing, failedOnce]⟩
    by_cases used : 0 < s.openNow
    · exact .inr (.inl ⟨by omega, used, by simp [acquire, found, failing, used]⟩)
    · exact .inr (.inr ⟨by omega, by omega,
        by simp [acquire, found, failing, used, Simulator.opened]⟩)

/-- The three ways in which an open can end while no device is held. -/
theorem Holds.acquire_cases (h : s.Holds none) (facing : Facing) :
    (s.camera? facing = none ∧ s.acquire facing = (.refused (.noSuchCamera facing), s)) ∨
    (∃ spec, s.camera? facing = some spec ∧ 0 < s.faults.failingOpens ∧
      s.acquire facing =
        (.refused (.openFailed facing "simulated hardware failure"), s.failedOnce)) ∨
    (∃ spec, s.camera? facing = some spec ∧ s.faults.failingOpens = 0 ∧
      s.acquire facing = (.done s.devices.length, s.opened spec)) := by
  have closed : s.openNow = 0 := h.openNow
  rcases s.acquire_outcomes facing with missing |
    ⟨spec, found, ⟨failing, failed⟩ | ⟨-, used, -⟩ | ⟨none, -, done⟩⟩
  · exact .inl missing
  · exact .inr (.inl ⟨spec, found, failing, failed⟩)
  · omega
  · exact .inr (.inr ⟨spec, found, none, done⟩)

theorem camera?_facing {facing : Facing} {spec : CameraSpec} (h : s.camera? facing = some spec) :
    spec.sensor.facing = facing := by
  simpa using List.find?_some h

theorem past_opened {spec : CameraSpec} {facing : Facing} (present : s.camera? facing = some spec) :
    (s.opened spec).past = (s.cameras, s.history ++ [facing]) := by
  simp [past, history, Simulator.opened, SimulatedDevice.ofSpec, camera?_facing present]

theorem camera?_eq_none_iff {facing : Facing} :
    s.camera? facing = none ↔ ∀ spec ∈ s.cameras, spec.sensor.facing ≠ facing := by
  simp [camera?]

/-- The service after a release of the device it holds. -/
theorem Holds.release {i : Nat} (h : s.Holds (some i)) {after : SimulatedDevice τ}
    (released : after.released = true) :
    { s.setDevice i after with
      openNow := s.openNow - 1, releases := s.releases + 1 }.Holds none := by
  have lt := h.known i rfl
  have count : s.openNow = 1 := h.openNow
  refine ⟨by simp, ?_, by simp [count], h.maxOpen, by simpa [Simulator.setDevice] using h.opens, ?_⟩
  · intro j e get
    simp only [Simulator.setDevice, List.getElem?_set] at get
    split at get
    · next eq =>
      subst eq
      cases get
      simp [released]
    · next ne =>
      have before := h.released j e get
      simp only [Option.some.injEq, ne, iff_false] at before
      simp [before]
  · have := h.balance
    simp only [Simulator.setDevice]
    omega

/-- A call on the held device is answered by the device, and releases it if it is a release. -/
theorem Holds.call {i : Nat} (h : s.Holds (some i)) (c : DeviceCall) :
    ∃ d, s.devices[i]? = some d ∧ d.released = false ∧
      (s.call i c).1 = (d.call s.faults c).1 ∧
      (s.call i c).2.devices = s.devices.set i (d.call s.faults c).2 ∧
      (s.call i c).2.cameras = s.cameras ∧ (s.call i c).2.faults = s.faults ∧
      (s.call i c).2.Holds (if c = .release then none else some i) := by
  obtain ⟨d, get, unreleased⟩ := h.device
  have after := (d.call_of_unreleased unreleased s.faults c).2.2
  refine ⟨d, get, unreleased, ?_⟩
  by_cases last : c = .release
  · subst last
    rw [decide_eq_true rfl] at after
    simp only [Simulator.call, get, after, unreleased, Bool.not_false, Bool.and_self, if_true]
    exact ⟨trivial, rfl, rfl, rfl, h.release after⟩
  · rw [decide_eq_false last] at after
    simp only [Simulator.call, get, after, Bool.false_and, Bool.false_eq_true, if_false,
      if_neg last]
    exact ⟨trivial, rfl, rfl, rfl, h.setDevice get (after.trans unreleased.symm)⟩

theorem Holds.requestFrame {i : Nat} (h : s.Holds (some i)) (ticket : τ) :
    (s.requestFrame i ticket).1 = .done () ∧ (s.requestFrame i ticket).2.Holds (some i) := by
  obtain ⟨d, get, unreleased⟩ := h.device
  obtain ⟨done, same⟩ := d.requestFrame_of_unreleased unreleased ticket
  simp only [Simulator.requestFrame, get]
  exact ⟨done, h.setDevice get (same.trans unreleased.symm)⟩

/-- A frame that is due, whether it finds a ticket or not, opens and releases nothing. -/
theorem Holds.fire (h : s.Holds held) (i : Nat) : (s.fire i).2.Holds held := by
  cases get : s.devices[i]? with
  | none => simpa [Simulator.fire, get] using h
  | some d =>
    simp only [Simulator.fire, get]
    split
    · exact h.setDevice get rfl
    · split
      · exact h.setDevice get rfl
      · have kept : (s.setDevice i { d with due := d.due - 1, ticket := none }).Holds held :=
          h.setDevice get rfl
        exact ⟨kept.known, kept.released, kept.openNow, kept.maxOpen, kept.opens, kept.balance⟩

end Simulator

end Viewfinder
