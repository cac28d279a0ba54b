import Viewfinder.Proofs.Recorder
import Viewfinder.Proofs.Secured

/-!
# One owner at a time

The calls that a run makes to the hardware, as a recorder writes them down, keep to one device: it
is called from when it was opened until it is released, and no other is opened in between.
-/

namespace Viewfinder

namespace NativeCall

/-- The device that a call opened. -/
def opens? : NativeCall → Option Nat
  | .acquire _ (.done device) => some device
  | _ => none

/-- The device that a call gives up, which a release does even if it is refused. -/
def releases? : NativeCall → Option Nat
  | .call device .release _ => some device
  | _ => none

def opened (calls : List NativeCall) : List Nat := calls.filterMap opens?

def released (calls : List NativeCall) : List Nat := calls.filterMap releases?

/-- A call is in order after others if it opens a camera when every device opened so far has been
released, or if it is for the one device that has not. -/
def InOrder (before : List NativeCall) : NativeCall → Prop
  | .acquire _ outcome => opened before = released before ∧ outcome ≠ .refused .inUse
  | .call device _ outcome =>
    opened before = released before ++ [device] ∧ outcome ≠ .refused .notOpen
  | .requestFrame device _ outcome =>
    opened before = released before ++ [device] ∧ outcome ≠ .refused .notOpen

theorem opened_append (calls : List NativeCall) (c : NativeCall) :
    opened (calls ++ [c]) = opened calls ++ c.opens?.toList := by
  cases h : c.opens? <;> simp [opened, h]

theorem released_append (calls : List NativeCall) (c : NativeCall) :
    released (calls ++ [c]) = released calls ++ c.releases?.toList := by
  cases h : c.releases? <;> simp [released, h]

end NativeCall

open NativeCall

namespace Simulator

variable {τ : Type} {s : Simulator τ}

theorem opens_call (s : Simulator τ) (i : Nat) (c : DeviceCall) :
    (s.call i c).2.opens = s.opens := by
  unfold Simulator.call
  split
  · rfl
  · dsimp only
    split <;> rfl

theorem opens_requestFrame (s : Simulator τ) (i : Nat) (ticket : τ) :
    (s.requestFrame i ticket).2.opens = s.opens := by
  unfold Simulator.requestFrame
  split <;> rfl

theorem opens_fire (s : Simulator τ) (i : Nat) : (s.fire i).2.opens = s.opens := by
  unfold Simulator.fire
  split
  · rfl
  · dsimp only
    split
    · rfl
    · split <;> rfl

end Simulator

/-- The calls written down so far were in order and leave `held` as the device to be released. -/
structure Ledger (r : Recorder (Simulator Ticket)) (held : Option Nat) : Prop where
  opened : opened r.calls = List.range r.service.opens
  balance : NativeCall.opened r.calls = released r.calls ++ held.toList
  inOrder : ∀ before c after, r.calls = before ++ c :: after → c.InOrder before
  holds : r.service.Holds held

namespace Ledger

variable {r : Recorder (Simulator Ticket)} {held : Option Nat}

/-- Write down a call that is in order. -/
theorem note (h : Ledger r held) {service : Simulator Ticket} {held' : Option Nat} {c : NativeCall}
    (inOrder : c.InOrder r.calls) (holds : service.Holds held')
    (opens : List.range service.opens = List.range r.service.opens ++ c.opens?.toList)
    (kept : held.toList ++ c.opens?.toList = c.releases?.toList ++ held'.toList) :
    Ledger ⟨service, r.calls ++ [c]⟩ held' where
  opened := by rw [opened_append, h.opened, opens]
  balance := by
    rw [opened_append, released_append, h.balance, List.append_assoc, List.append_assoc, kept]
  inOrder before x after eq := by
    rcases List.eq_nil_or_concat after with rfl | ⟨after, last, rfl⟩
    · obtain ⟨rfl, same⟩ := List.append_inj' eq rfl
      cases same
      exact inOrder
    · rw [List.concat_eq_append, ← List.cons_append, ← List.append_assoc] at eq
      exact h.inOrder before x after (List.append_inj' eq rfl).1
  holds := holds

theorem acquire (h : Ledger r none) (facing : Facing) :
    ∃ held', Ledger (CameraService.acquire facing r).2 held' := by
  have free : NativeCall.opened r.calls = released r.calls := by simpa using h.balance
  rcases h.holds.acquire_cases facing with ⟨-, eq⟩ | ⟨spec, -, -, eq⟩ | ⟨spec, -, -, eq⟩
  all_goals
    simp only [CameraService.acquire, Recorder.note, eq]
  · exact ⟨none, h.note ⟨free, by simp⟩ h.holds (by simp [opens?]) rfl⟩
  · exact ⟨none, h.note ⟨free, by simp⟩ (h.holds.setFaults _)
      (by simp [opens?, Simulator.failedOnce]) rfl⟩
  · refine ⟨_, h.note ⟨free, by simp⟩ (h.holds.opened spec) ?_ rfl⟩
    simp [opens?, Simulator.opened, h.holds.opens, List.range_succ]

theorem call {device : Nat} (h : Ledger r (some device)) (c : DeviceCall) :
    ∃ held', Ledger (CameraService.call device c r).2 held' := by
  obtain ⟨d, -, unreleased, outcome, -, -, -, after⟩ := h.holds.call c
  refine ⟨_, h.note ⟨by simpa using h.balance, ?_⟩ after ?_ ?_⟩
  · have := (d.call_of_unreleased unreleased r.service.faults c).1
    simpa only [CameraService.call, outcome] using this
  · simp [opens?, CameraService.call, Simulator.opens_call]
  · by_cases last : c = .release
    · simp [last, opens?, releases?]
    · cases c <;> simp_all [opens?, releases?]

theorem requestFrame {device : Nat} (h : Ledger r (some device)) (ticket : Ticket) :
    Ledger (CameraService.requestFrame device ticket r).2 (some device) := by
  obtain ⟨done, after⟩ := h.holds.requestFrame ticket
  refine h.note ⟨by simpa using h.balance, ?_⟩ after ?_ rfl
  · simp [CameraService.requestFrame, done]
  · simp [opens?, CameraService.requestFrame, Simulator.opens_requestFrame]

end Ledger

namespace CameraSystem

variable {s t : CameraSystem (Recorder (Simulator Ticket))} {held : Option Nat}

/-- Whatever a move asks of the service is in order. -/
theorem Touched.ledger {r : Recorder (Simulator Ticket)} (touched : Touched s r)
    (secured : s.unrecorded.Secured held) (h : Ledger s.service held) :
    ∃ held', Ledger r held' := by
  cases touched with
  | none => exact ⟨held, h⟩
  | acquire facing request stage present =>
    obtain ⟨-, -, rfl⟩ := secured.of_opening stage
    exact h.acquire facing
  | call routine next step rest stage steps =>
    obtain rfl := secured.of_native stage steps
    exact h.call step.call
  | requestFrame camera ticket slot =>
    obtain ⟨-, rfl⟩ := secured.of_slot slot
    exact ⟨_, h.requestFrame ticket⟩
  | fire device =>
    exact ⟨held, h.opened.trans (congrArg List.range (Simulator.opens_fire _ device).symm),
      h.balance, h.inOrder, h.holds.fire device⟩
  | setFaults faults => exact ⟨held, h.opened, h.balance, h.inOrder, h.holds.setFaults faults⟩

/-- The device in custody is the one that the ledger has not seen released. -/
def Accounted (s : CameraSystem (Recorder (Simulator Ticket))) (held : Option Nat) : Prop :=
  s.unrecorded.Secured held ∧ Ledger s.service held

theorem Accounted.move (h : s.Accounted held) {m : Move} (enabled : s.enabled m = true) :
    ∃ held', (s.move m).Accounted held' := by
  obtain ⟨secured, ledger⟩ := h
  obtain ⟨held', ledger'⟩ := (Touched.move s m).ledger secured ledger
  obtain ⟨held'', secured'⟩ := secured.move ((s.unrecorded_enabled m).trans enabled)
  rw [← unrecorded_move] at secured'
  obtain rfl := secured'.holds.unique ledger'.holds
  exact ⟨_, secured', ledger'⟩

theorem accounted_of_run? {settings : Settings} {cameras : List CameraSpec} {capacity : Nat}
    {facing : Facing} {moves : List Move}
    (run : (recording settings cameras capacity facing).run? moves = some t) :
    ∃ held, t.Accounted held := by
  refine run?_keeps (P := fun s => ∃ held, s.Accounted held) (fun _ _ ⟨_, h⟩ e => h.move e) run
    ⟨none, secured_ofCameras settings cameras capacity facing, rfl, rfl, ?_,
      Simulator.holds_ofCameras cameras⟩
  simp [recording, ofService]

/-- Whatever is asked of a camera system in whatever order, and however opens and releases fail, a
device is opened only when all devices before it have been released once each, and no device is
called but the one that is open. So no open finds a camera in use and no call a device that is not
open; and between two commands a camera is in the slot just if the state says that it is open. -/
theorem exclusive_ownership {settings : Settings} {cameras : List CameraSpec} {capacity : Nat}
    {facing : Facing} {moves : List Move}
    (run : (recording settings cameras capacity facing).run? moves = some t) :
    (∀ before c after, t.service.calls = before ++ c :: after → c.InOrder before) ∧
      (opened t.service.calls).Nodup ∧
      t.service.service.openNow ≤ 1 ∧ t.service.service.maxOpen ≤ 1 ∧
      (∀ camera, t.slot = some camera →
        opened t.service.calls = released t.service.calls ++ [camera.device]) ∧
      (t.executor.stage = .idle ∨ t.executor.stage = .stopped ∨ t.executor.stage = .crashed →
        (t.slot.isSome ↔ t.state = .opened) ∧ (t.slot = none ↔ t.state = .closed) ∧
        t.service.service.opens = t.service.service.releases + t.slot.toList.length) := by
  obtain ⟨held, secured, ledger⟩ := accounted_of_run? run
  refine ⟨ledger.inOrder, ?_, ledger.holds.openNow_le_one, ledger.holds.maxOpen, ?_, ?_⟩
  · rw [ledger.opened]
    exact List.nodup_range
  · intro camera slot
    obtain ⟨-, rfl⟩ := secured.of_slot slot
    exact ledger.balance
  · intro between
    have balance := ledger.holds.balance
    rw [ledger.holds.openNow] at balance
    rcases secured.between between with ⟨slot, state, rfl⟩ | ⟨camera, slot, state, rfl⟩
    · have slot : t.slot = none := slot
      have state : t.state = .closed := state
      simpa [slot, state] using balance
    · have slot : t.slot = some camera := slot
      have state : t.state = .opened := state
      simpa [slot, state] using balance

/-- The back camera is opened and a swap goes through although its release fails. -/
def swapUnderFault : List Move :=
  .flatten [[.request (.start .back), .setFaults { failRelease := true }], turns 7,
    [.request .swap], turns 11]

theorem exclusive_ownership_swap :
    ∃ t, (recording {} Simulator.dual 64 .back).run? swapUnderFault = some t ∧
      opened t.service.calls = [0, 1] ∧ released t.service.calls = [0] ∧
      t.service.service.maxOpen ≤ 1 ∧
      t.service.service.opens = t.service.service.releases + t.slot.toList.length := by
  obtain ⟨t, run, idle, opened, released⟩ :
      ∃ t, (recording {} Simulator.dual 64 .back).run? swapUnderFault = some t ∧
        t.executor.stage = .idle ∧ opened t.service.calls = [0, 1] ∧
        released t.service.calls = [0] := ⟨_, rfl, rfl, rfl, rfl⟩
  obtain ⟨-, -, -, maxOpen, -, between⟩ := exclusive_ownership run
  exact ⟨t, run, opened, released, maxOpen, (between (.inl idle)).2.2⟩

end CameraSystem

end Viewfinder
