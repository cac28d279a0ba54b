import Viewfinder.Control.Executor
import Viewfinder.Proofs.Holding

/-!
# Routines on the device that is held

What one native call does to a routine and to the service. A device that is open refuses nothing
that would end its configuration (`Unfailing`), only the routine that releases gives it up, and that
with its last call (`release_perform`). `Aims` says of the calls that are left in a routine what they
come to.
-/

namespace Viewfinder

/-- A call that does not release or focus, and that an open device refuses only where it does not
matter. -/
def NativeStep.Harmless (step : NativeStep) : Prop :=
  step.call ≠ .release ∧ step.call ≠ .autoFocus ∧
    (step.onRefusal = .ignore ∨ (∃ degrees, step.call = .setDisplayRotation degrees) ∨
      step.call = .startPreview)

namespace Routine

/-- A routine that has not failed and will not. -/
structure Unfailing (r : Routine) : Prop where
  failure : r.failure = none
  crashed : r.crashed = false
  harmless : ∀ step ∈ r.steps, step.Harmless

/-- A routine that leaves the device open. -/
def Keeps (r : Routine) : Prop := ∀ step ∈ r.steps, step.call ≠ .release

theorem configure_unfailing (device : Nat) (capabilities : Capabilities) (o : Orientation) :
    (configure device capabilities o).Unfailing := by
  refine ⟨rfl, rfl, ?_⟩
  intro step mem
  simp only [configure, List.mem_append, Option.mem_toList, Option.map_eq_some_iff,
    List.mem_cons, List.not_mem_nil, or_false] at mem
  rcases mem with ⟨mode, -, rfl⟩ | rfl | rfl | rfl <;> simp [NativeStep.Harmless]

theorem resize_keeps (device : Nat) (current size : Size) : (resize device current size).Keeps := by
  intro step mem
  simp only [resize] at mem
  split at mem <;> simp at mem
  rcases mem with rfl | rfl | rfl <;> simp

theorem turn_keeps (device : Nat) (displayChanged outputChanged : Bool) (o : Orientation) :
    (turn device displayChanged outputChanged o).Keeps := by
  intro step mem
  cases displayChanged <;> cases outputChanged <;> simp [turn] at mem
  · rw [mem]; simp
  · rcases mem with rfl | rfl | rfl <;> simp
  · rcases mem with rfl | rfl | rfl | rfl <;> simp

theorem focus_keeps (device : Nat) (capabilities : Capabilities) (request : FocusRequest) :
    (focus device capabilities request).Keeps := by
  intro step mem
  simp only [focus, List.mem_append, List.mem_cons, List.not_mem_nil, or_false] at mem
  rcases mem with (rfl | mem) | rfl | rfl
  · simp
  · split at mem <;> simp at mem
    rw [mem.2]; simp
  · simp
  · simp

theorem Unfailing.keeps {r : Routine} (h : r.Unfailing) : r.Keeps :=
  fun step mem => (h.harmless step mem).1

theorem Unfailing.result {r : Routine} (h : r.Unfailing) : r.result? = some (.ok ()) := by
  simp [result?, h.failure, h.crashed]

/-- What making the next call of a routine does to the routine, on a device that is open. -/
theorem perform_cases {r : Routine} {step : NativeStep} {rest : List NativeStep}
    {service : Simulator Ticket} (h : service.Holds (some r.device))
    (steps : r.steps = step :: rest) :
    ∃ left failure crashed,
      r.perform service = ({ r with steps := left, failure := failure, crashed := crashed },
        (service.call r.device step.call).2) ∧
      (left = rest ∧ failure = r.failure ∧ crashed = r.crashed ∨
        (∃ e, (service.call r.device step.call).1 = .refused e ∧ crashed = r.crashed ∧
          (step.onRefusal = .keep ∧ left = rest ∨
            step.onRefusal = .abort ∧ left = [] ∧ failure = some e)) ∨
        (service.call r.device step.call).1 = .crashed ∧ step.call = .autoFocus ∧ left = [] ∧
          failure = r.failure ∧ crashed = true) := by
  obtain ⟨d, -, unreleased, outcome, -⟩ := h.call step.call
  have focusing := (d.call_of_unreleased unreleased service.faults step.call).2.1
  rw [← outcome] at focusing
  simp only [perform, steps, CameraService.call]
  split
  · next eq => exact ⟨rest, r.failure, r.crashed, by simp [eq], .inl ⟨rfl, rfl, rfl⟩⟩
  · next eq =>
    rw [eq] at focusing
    exact ⟨[], r.failure, true, by simp [eq],
      .inr (.inr ⟨by rw [eq], (focusing rfl).1, rfl, rfl, rfl⟩)⟩
  · next e service' eq =>
    cases policy : step.onRefusal with
    | ignore => exact ⟨rest, r.failure, r.crashed, by simp [eq], .inl ⟨rfl, rfl, rfl⟩⟩
    | keep =>
      exact ⟨rest, r.failure.or (some e), r.crashed, by simp [eq],
        .inr (.inl ⟨e, by rw [eq], rfl, by simp⟩)⟩
    | abort =>
      exact ⟨[], some e, r.crashed, by simp [eq], .inr (.inl ⟨e, by rw [eq], rfl, by simp⟩)⟩

/-- An unfailing routine stays so. -/
theorem Unfailing.perform {r : Routine} {step : NativeStep} {rest : List NativeStep}
    {service : Simulator Ticket} (h : r.Unfailing) (holds : service.Holds (some r.device))
    (steps : r.steps = step :: rest) :
    r.perform service = ({ r with steps := rest }, (service.call r.device step.call).2) ∧
      { r with steps := rest }.Unfailing := by
  obtain ⟨-, quiet, policy⟩ := h.harmless step (by simp [steps])
  have unfailing : { r with steps := rest }.Unfailing :=
    ⟨h.failure, h.crashed, fun other mem => h.harmless other (by simp [steps, mem])⟩
  obtain ⟨left, failure, crashed, eq, ⟨rfl, rfl, rfl⟩ | ⟨e, refused, -, notIgnored⟩ |
    ⟨-, focusing, -⟩⟩ := perform_cases holds steps
  · exact ⟨eq, unfailing⟩
  · obtain ⟨d, -, unreleased, outcome, -⟩ := holds.call step.call
    rw [outcome] at refused
    rcases policy with ignore | ⟨degrees, call⟩ | call
    · simp [ignore] at notIgnored
    · simp [call, SimulatedDevice.call, unreleased] at refused
    · simp [call, SimulatedDevice.call, unreleased] at refused
  · exact absurd focusing quiet

/-- A routine that keeps the device leaves it held after each call. -/
theorem Keeps.perform {r : Routine} {step : NativeStep} {rest : List NativeStep}
    {service : Simulator Ticket} (h : r.Keeps) (holds : service.Holds (some r.device))
    (steps : r.steps = step :: rest) :
    (r.perform service).1.device = r.device ∧ (r.perform service).1.Keeps ∧
      (r.perform service).2.Holds (some r.device) := by
  obtain ⟨-, -, -, -, -, -, -, after⟩ := holds.call step.call
  rw [if_neg (h step (by simp [steps]))] at after
  obtain ⟨left, failure, crashed, eq, outcome⟩ := perform_cases holds steps
  have sublist : left.Sublist r.steps := by
    rcases outcome with ⟨rfl, -⟩ | ⟨e, -, -, ⟨-, rfl⟩ | ⟨-, rfl, -⟩⟩ | ⟨-, -, rfl, -⟩ <;>
      simp [steps]
  rw [eq]
  exact ⟨rfl, fun other mem => h other (sublist.subset mem), after⟩

/-- A routine that releases does so with its last call. -/
theorem release_perform {r : Routine} {step : NativeStep} {rest : List NativeStep}
    {service : Simulator Ticket} (holds : service.Holds (some r.device))
    (steps : r.steps = step :: rest)
    (left : r.steps = (release r.device).steps ∨ r.steps = (release r.device).steps.tail) :
    r.perform service = ({ r with steps := rest }, (service.call r.device step.call).2) ∧
      (step.call ≠ .release ∧ rest = (release r.device).steps.tail ∨
        step.call = .release ∧ rest = []) := by
  have ignore : (step.onRefusal = .ignore ∧ step.call ≠ .autoFocus) ∧ (step.call ≠ .release ∧
      rest = (release r.device).steps.tail ∨ step.call = .release ∧ rest = []) := by
    rcases left with left | left <;> simp [steps, release] at left <;>
      obtain ⟨rfl, rfl⟩ := left <;> simp [release]
  refine ⟨?_, ignore.2⟩
  obtain ⟨left, failure, crashed, eq, ⟨rfl, rfl, rfl⟩ | ⟨e, -, -, notIgnored⟩ | ⟨-, focusing, -⟩⟩ :=
    perform_cases holds steps
  · exact eq
  · simp [ignore.1.1] at notIgnored
  · exact absurd focusing ignore.1.2

end Routine

/-! ## Where steps lead -/

/-- The calls that an open device does not refuse. -/
def DeviceCall.sure : DeviceCall → Bool
  | .startPreview | .stopPreview | .setDisplayRotation _ => true
  | _ => false

theorem SimulatedDevice.sure_call {τ : Type} {d : SimulatedDevice τ} (open_ : d.released = false)
    (faults : SimulatorFaults) {c : DeviceCall} (sure : c.sure = true) :
    (d.call faults c).1 = .done () := by
  cases c <;> simp_all [call, DeviceCall.sure]

section

variable {α : Type} {effect : DeviceCall → α → α} {goal : α → Prop} {a : α}

/-- Steps that lead to a value that meets `goal`, also where a refusal or a crash cuts them short;
`effect` is what a call makes of the value. -/
def Aims (effect : DeviceCall → α → α) (goal : α → Prop) : List NativeStep → α → Prop
  | [], a => goal a
  | step :: rest, a =>
    Aims effect goal rest (effect step.call a) ∧
      (step.onRefusal = .abort ∨ step.call = .autoFocus →
        step.call.sure = true ∨ goal (effect step.call a))

/-- Steps without an effect. -/
def Spares (effect : DeviceCall → α → α) (steps : List NativeStep) : Prop :=
  ∀ step ∈ steps, ∀ a, effect step.call a = a

theorem Spares.aims {steps : List NativeStep} (h : Spares effect steps) (met : goal a) :
    Aims effect goal steps a := by
  induction steps with
  | nil => exact met
  | cons step rest ih =>
    have same : effect step.call a = a := h step (by simp) a
    refine ⟨?_, fun _ => .inr ?_⟩
    · rw [same]
      exact ih fun other mem => h other (by simp [mem])
    · rw [same]
      exact met

/-- Where steps without an effect lead one is already. -/
theorem Spares.meets {steps : List NativeStep} (h : Spares effect steps)
    (aims : Aims effect goal steps a) : goal a := by
  induction steps with
  | nil => exact aims
  | cons step rest ih =>
    have led := aims.1
    rw [h step (by simp)] at led
    exact ih (fun other mem => h other (by simp [mem])) led

/-- What a routine leads to it still leads to after its next call. -/
theorem Aims.perform {r : Routine} {step : NativeStep} {rest : List NativeStep}
    {service : Simulator Ticket} (h : Aims effect goal r.steps a)
    (holds : service.Holds (some r.device)) (steps : r.steps = step :: rest) :
    Aims effect goal (r.perform service).1.steps (effect step.call a) := by
  rw [steps] at h
  obtain ⟨leads, cut⟩ := h
  have answers (sure : step.call.sure = true) :
      (service.call r.device step.call).1 = .done () := by
    obtain ⟨d, -, unreleased, outcome, -⟩ := holds.call step.call
    rw [outcome, SimulatedDevice.sure_call unreleased _ sure]
  obtain ⟨left, failure, crashed, eq, outcome⟩ := Routine.perform_cases holds steps
  rw [eq]
  rcases outcome with ⟨rfl, -⟩ | ⟨e, refused, -, ⟨-, rfl⟩ | ⟨abort, rfl, -⟩⟩ |
    ⟨went, focusing, rfl, -⟩
  · exact leads
  · exact leads
  · rcases cut (.inl abort) with sure | met
    · cases refused.symm.trans (answers sure)
    · exact met
  · rcases cut (.inr focusing) with sure | met
    · cases went.symm.trans (answers sure)
    · exact met

end

end Viewfinder
