import Mathlib.Algebra.GroupWithZero.Nat
import Viewfinder.Proofs.Mailbox
import Viewfinder.Proofs.Publication

/-!
# From the tap to the autofocus

A tap that is taken is applied to the device of the session in which it was made, or to none. The
autofocus is the last call of the routine that applies it, and the only one that runs it, so that a
focus is published for each run.
-/

namespace Viewfinder

def Event.isFocus : Event → Bool
  | .focusRequested _ => true
  | _ => false

/-- What the executor focuses on. -/
def Stage.focus? : Stage → Option FocusRequest
  | .native _ (.focus request) => some request
  | _ => none

/-- How many runs of the autofocus have still to be published. -/
def Stage.untold : Stage → Nat
  | .native routine (.focus _) =>
    if routine.steps.isEmpty && routine.failure.isNone && !routine.crashed then 1 else 0
  | _ => 0

theorem Stage.untold_of_focus? {stage : Stage} (none : stage.focus? = none) : stage.untold = 0 := by
  unfold untold
  split
  · cases none
  · rfl

theorem Stage.untold_of_steps {stage : Stage} (going : stage.steps ≠ []) : stage.untold = 0 := by
  unfold untold
  split
  · exact if_neg (by simpa [steps] using fun empty => absurd empty going)
  · rfl

/-! ## Runs of the autofocus -/

/-- A device that is not released counts a run of its autofocus, unless the count overflows. -/
theorem SimulatedDevice.focusRuns_call {τ : Type} {d : SimulatedDevice τ}
    (open_ : d.released = false) (faults : SimulatorFaults) (c : DeviceCall) :
    (d.call faults c).2.focusRuns.toNat =
        d.focusRuns.toNat + (if c = .autoFocus ∧ (d.call faults c).1 = .done () then 1 else 0) ∧
      (c = .autoFocus → ∀ e, (d.call faults c).1 ≠ .refused e) := by
  cases c with
  | autoFocus =>
    simp only [call, open_, Bool.false_eq_true, if_false]
    split
    · simp
    · next counts =>
      have fits : d.focusRuns.toNat + 1 < 2 ^ 32 := by
        have high := d.focusRuns.toNat_lt
        rw [← UInt32.toNat_inj, UInt32.toNat_add] at counts
        have : ¬(d.focusRuns.toNat + 1) % 2 ^ 32 = 0 := counts
        omega
      simpa using fits
  | _ =>
    simp only [call, open_, reduceCtorEq, false_and, if_false]
    refine ⟨?_, False.elim⟩
    repeat' (first | rfl | split)

namespace Simulator

variable {τ : Type} {s : Simulator τ}

/-- How often the devices ran their autofocus, all that were ever opened. -/
def focusRuns (s : Simulator τ) : Nat := (s.devices.map (·.focusRuns.toNat)).sum

theorem focusRuns_opened (spec : CameraSpec) : (s.opened spec).focusRuns = s.focusRuns := by
  simp [focusRuns, opened, SimulatedDevice.ofSpec]

theorem focusRuns_requestFrame (i : Nat) (ticket : τ) :
    (s.requestFrame i ticket).2.focusRuns = s.focusRuns :=
  congrArg List.sum (map_requestFrame (fun _ _ _ => rfl) i ticket)

theorem focusRuns_fire (i : Nat) : (s.fire i).2.focusRuns = s.focusRuns :=
  congrArg List.sum (map_fire (fun _ _ _ => rfl) i)

/-- The device that is held runs its autofocus when it is called to, and at no other call. It does
not refuse, but a run that it cannot count crashes. -/
theorem Holds.focusRuns_call {i : Nat} (h : s.Holds (some i)) (c : DeviceCall) :
    (s.call i c).2.focusRuns =
        s.focusRuns + (if c = .autoFocus ∧ (s.call i c).1 = .done () then 1 else 0) ∧
      (c = .autoFocus → ∀ e, (s.call i c).1 ≠ .refused e) := by
  obtain ⟨d, get, unreleased, outcome, devices, -⟩ := h.call c
  obtain ⟨lt, at_⟩ := List.getElem?_eq_some_iff.1 get
  obtain ⟨before, after, whole, -, set⟩ := @List.exists_of_set _ _ (d.call s.faults c).2 _ lt
  obtain ⟨runs, unrefused⟩ := d.focusRuns_call unreleased s.faults c
  rw [outcome]
  refine ⟨?_, unrefused⟩
  rw [focusRuns, devices, set, focusRuns, whole, at_]
  simp [runs]
  omega

end Simulator

/-! ## The routine -/

namespace Routine

/-- The autofocus is the last call of those that focus, and none of them goes on after a failure. -/
theorem focus_suffix {device : Nat} {capabilities : Capabilities} {request : FocusRequest}
    {step : NativeStep} {rest : List NativeStep}
    (left : step :: rest <:+ (focus device capabilities request).steps) :
    (rest = [] ↔ step.call = .autoFocus) ∧ step.onRefusal ≠ .keep := by
  cases areas : capabilities.hasFocusAreas <;> cases auto : capabilities.supports .auto <;>
    simp [focus, areas, auto, List.suffix_cons_iff] at left
  case true.true =>
    rcases left with ⟨rfl, rfl⟩ | ⟨rfl, rfl⟩ | ⟨rfl, rfl⟩ | ⟨rfl, rfl⟩ <;> simp
  all_goals rcases left with ⟨rfl, rfl⟩ | ⟨rfl, rfl⟩ | ⟨rfl, rfl⟩ <;> simp

/-- What is left of the calls that focus a camera; a failure or a crash leaves nothing of them. -/
structure Focuses (r : Routine) (camera : OpenCamera) (request : FocusRequest) : Prop where
  device : r.device = camera.device
  left : r.steps <:+ (focus camera.device camera.capabilities request).steps
  going : r.steps ≠ [] → r.failure = none ∧ r.crashed = false

theorem focuses_focus (camera : OpenCamera) (request : FocusRequest) :
    (focus camera.device camera.capabilities request).Focuses camera request :=
  ⟨rfl, List.suffix_rfl, fun _ => ⟨rfl, rfl⟩⟩

/-- The call that runs the autofocus leaves a run to be published, and no other does. -/
theorem Focuses.perform {r : Routine} {camera : OpenCamera} {request : FocusRequest}
    {step : NativeStep} {rest : List NativeStep} {service : Simulator Ticket}
    (h : r.Focuses camera request) (holds : service.Holds (some r.device))
    (steps : r.steps = step :: rest) :
    (r.perform service).1.Focuses camera request ∧
      (r.perform service).2.focusRuns =
        service.focusRuns + (Stage.native (r.perform service).1 (.focus request)).untold := by
  have left := h.left
  rw [steps] at left
  obtain ⟨last, policy⟩ := focus_suffix left
  obtain ⟨failure, crashed⟩ := h.going (by simp [steps])
  have goes : { r with steps := rest }.Focuses camera request :=
    ⟨h.device, (List.suffix_cons step rest).trans left, fun _ => ⟨failure, crashed⟩⟩
  obtain ⟨runs, unrefused⟩ := holds.focusRuns_call step.call
  rcases made : service.call r.device step.call with ⟨outcome, service'⟩
  rw [made] at runs unrefused
  simp only [Routine.perform, steps, CameraService.call, made]
  cases outcome with
  | done =>
    refine ⟨goes, runs.trans ?_⟩
    simp [Stage.untold, failure, crashed, last]
  | crashed =>
    refine ⟨⟨h.device, List.nil_suffix, fun going => absurd rfl going⟩, runs.trans ?_⟩
    simp [Stage.untold]
  | refused e =>
    have other : step.call ≠ .autoFocus := fun call => unrefused call e rfl
    cases onRefusal : step.onRefusal with
    | ignore =>
      refine ⟨goes, runs.trans ?_⟩
      simp [Stage.untold, last, other]
    | keep => exact absurd onRefusal policy
    | abort =>
      refine ⟨⟨h.device, List.nil_suffix, fun going => absurd rfl going⟩, runs.trans ?_⟩
      simp [Stage.untold]

end Routine

namespace CameraSystem

variable {s t : CameraSystem (Simulator Ticket)} {held : Option Nat} {marks : List TapMark}

/-- Only the routine for a tap runs the autofocus. -/
theorem focusRuns_of_touched (secured : s.Secured held) (rooted : s.executor.stage.Rooted)
    (other : s.executor.stage.focus? = none) {service : Simulator Ticket}
    (touched : Touched s service) : service.focusRuns = s.service.focusRuns := by
  cases touched with
  | none => rfl
  | acquire facing request stage =>
    obtain ⟨-, -, rfl⟩ := secured.of_opening stage
    rcases secured.holds.acquire_cases facing with ⟨-, eq⟩ | ⟨spec, -, -, eq⟩ | ⟨spec, -, -, eq⟩
    · exact congrArg (fun made => made.2.focusRuns) eq
    · exact congrArg (fun made => made.2.focusRuns) eq
    · exact (congrArg (fun made => made.2.focusRuns) eq).trans (Simulator.focusRuns_opened spec)
  | call routine next step rest stage steps =>
    have holds := secured.holds
    rw [secured.of_native stage steps] at holds
    refine (holds.focusRuns_call step.call).1.trans (congrArg (_ + ·) (if_neg fun runs => ?_))
    rw [stage] at rooted other
    have mem : step ∈ routine.steps := by simp [steps]
    obtain ⟨request, rfl⟩ := (rooted.purpose mem).2 (by rw [runs.1]; rfl)
    cases other
  | requestFrame camera ticket => exact Simulator.focusRuns_requestFrame camera.device ticket
  | fire device => exact Simulator.focusRuns_fire device
  | setFaults faults => rfl

/-- A focus is published only when a focus ends. -/
theorem Publishes.countP_isFocus {added : List Event} (h : Publishes s t added)
    (other : s.executor.stage.focus? = none) : added.countP Event.isFocus = 0 := by
  cases h with
  | focus routine request stage =>
    rw [stage] at other
    cases other
  | _ => rfl

/-- Of the commands only the one that takes a tap starts to focus. -/
theorem focus?_execute (s : CameraSystem (Simulator Ticket)) (idle : s.executor.stage = .idle)
    {c : Command} (other : c ≠ .applyFocus) : (s.execute c).executor.stage.focus? = none := by
  have still : s.executor.stage.focus? = none := by rw [idle]; rfl
  cases c with
  | applyFocus => exact absurd rfl other
  | _ =>
    simp only [execute, beginClose, configurePreview, announce, refreshOrientation]
    repeat' (first | exact still | rfl | split)

/-- What the executor focuses on is the tap that was taken last, and the runs of the autofocus are
those that were published, but for one that is about to be. -/
structure Focused (s : CameraSystem (Simulator Ticket)) (marks : List TapMark) : Prop where
  serves : ∀ routine request, s.executor.stage = .native routine (.focus request) →
    ∃ camera tap preview, s.slot = some camera ∧
      (marks.filterMap TapMark.taken?).getLast? = some (some camera.session, tap) ∧
      s.preview = some preview ∧
      s.settings.focusMapper.request? tap preview s.display camera.capabilities =
        some (some request) ∧
      routine.Focuses camera request
  counted : s.service.focusRuns = s.published.countP Event.isFocus + s.executor.stage.untold

theorem Focused.of_unfocused (counted : s.service.focusRuns = s.published.countP Event.isFocus)
    (still : s.executor.stage.focus? = none) : s.Focused marks := by
  refine ⟨fun routine request stage => ?_, ?_⟩
  · rw [stage] at still
    cases still
  · rw [counted, Stage.untold_of_focus? still, Nat.add_zero]

/-- A command that starts to focus takes a tap of the session that is open. -/
theorem focused_applyFocus (s : CameraSystem (Simulator Ticket))
    (still : s.executor.stage.focus? = none)
    (counted : s.applyFocus.service.focusRuns = s.applyFocus.published.countP Event.isFocus) :
    s.applyFocus.Focused (marks ++ (s.tap.map (TapMark.taken s.session?)).toList) := by
  rcases Option.eq_none_or_eq_some s.tap with waits | ⟨tap, waits⟩
  · have eq : s.applyFocus = s := by simp [applyFocus, waits]
    rw [eq] at counted ⊢
    exact .of_unfocused counted still
  · rcases s.applyFocus_taken waits with
      eq | ⟨camera, preview, slot, shown, ⟨-, eq⟩ | ⟨request, found, eq⟩⟩
    · rw [eq] at counted ⊢
      exact .of_unfocused counted still
    · rw [eq] at counted ⊢
      exact .of_unfocused counted rfl
    · rw [eq] at counted ⊢
      refine ⟨?_, ?_⟩
      · rintro routine request' ⟨⟩
        refine ⟨camera, tap, preview, slot, ?_, shown, found, Routine.focuses_focus camera _⟩
        simp [waits, session?, slot, TapMark.taken?]
      · rw [Stage.untold_of_steps (by simp [Stage.steps, Routine.focus, setStage])]
        exact counted

theorem focused_take {c : Command} {rest : List Command} (idle : s.executor.stage = .idle)
    (queue : s.queue = c :: rest)
    (counted : ({ s with queue := rest }.execute c).service.focusRuns =
      ({ s with queue := rest }.execute c).published.countP Event.isFocus) :
    ({ s with queue := rest }.execute c).Focused
      (marks ++ (s.turnMark? ({ s with queue := rest }.execute c)).toList) := by
  by_cases focuses : c = .applyFocus
  · subst focuses
    have executes : s.executes? (.task .executor) = some .applyFocus := by
      rw [executes?_of_idle idle, queue]
      rfl
    rw [turnMark?, if_pos executes]
    exact focused_applyFocus { s with queue := rest } (by rw [idle]; rfl) counted
  · exact .of_unfocused counted (focus?_execute { s with queue := rest } idle focuses)

/-- A step of an executor that does not focus publishes no focus, and no autofocus runs. -/
theorem Focused.counted_of_turn (h : s.Focused marks) (secured : s.Secured held)
    (rooted : s.executor.stage.Rooted) (still : s.executor.stage.focus? = none) (turn : Turn s t)
    (touched : Touched s t.service) :
    t.service.focusRuns = t.published.countP Event.isFocus := by
  obtain ⟨added, published, publishes⟩ := publishes_of_turn turn
  have counted := h.counted
  rw [Stage.untold_of_focus? still] at counted
  rw [focusRuns_of_touched secured rooted still touched, counted, published, List.countP_append,
    publishes.countP_isFocus still]

/-- A step of an executor that focuses makes a call, or publishes that the autofocus has run. -/
theorem Focused.proceed (h : s.Focused marks) (secured : s.Secured held) (turn : Turn s t)
    {routine : Routine} {request : FocusRequest}
    (stage : s.executor.stage = .native routine (.focus request)) :
    t.Focused (marks ++ (s.turnMark? t).toList) := by
  obtain ⟨camera, tap, preview, slot, taken, shown, found, focuses⟩ :=
    h.serves routine request stage
  have counted := h.counted
  have unmarked (same : t.slot = s.slot) : marks ++ (s.turnMark? t).toList = marks := by
    rw [turnMark?_of_slot (.inr same) (by simp [executes?_of_busy, stage]), Option.toList_none,
      List.append_nil]
  cases turn with
  | take c rest idle | finish idle => cases stage.symm.trans idle
  | missing facing wanted opening | refused facing wanted opening
  | acquired facing wanted spec capabilities o opening => cases stage.symm.trans opening
  | installed routine' facing wanted camera' o installs => cases stage.symm.trans installs
  | forgotten routine' facing last closes => cases stage.symm.trans closes
  | called routine' next step rest stage' steps =>
    cases stage.symm.trans stage'
    have holds := secured.holds
    rw [secured.of_native stage steps] at holds
    obtain ⟨focuses, runs⟩ := focuses.perform holds steps
    rw [unmarked rfl]
    refine ⟨?_, ?_⟩
    · rintro routine' request' ⟨⟩
      exact ⟨camera, tap, preview, slot, taken, shown, found, focuses⟩
    · have going : s.executor.stage.untold = 0 :=
        Stage.untold_of_steps (by simp [stage, Stage.steps, steps])
      rw [going] at counted
      exact runs.trans (congrArg (· + _) counted)
  | worked routine' next works stage' steps =>
    cases stage.symm.trans stage'
    have returned := s.resume_returned routine works
    refine .of_unfocused ?_ (by rw [returned.idle]; rfl)
    rw [returned.service, counted, stage]
    simp only [resume, Routine.result?, Stage.untold, steps, List.isEmpty_nil]
    cases routine.crashed with
    | true => simp [setStage, published]
    | false =>
      cases routine.failure with
      | none =>
        show _ = (s.publish (.focusRequested request)).published.countP Event.isFocus
        rw [published_publish, List.countP_append]
        rfl
      | some e => rfl

theorem Focused.of_turn (h : s.Focused marks) (secured : s.Secured held)
    (rooted : s.executor.stage.Rooted) (turn : Turn s t) (touched : Touched s t.service) :
    t.Focused (marks ++ (s.turnMark? t).toList) := by
  cases focuses : s.executor.stage.focus? with
  | some request =>
    obtain ⟨routine, stage⟩ : ∃ routine, s.executor.stage = .native routine (.focus request) := by
      unfold Stage.focus? at focuses
      split at focuses
      · next routine _ stage =>
        cases focuses
        exact ⟨routine, stage⟩
      · cases focuses
    exact h.proceed secured turn stage
  | none =>
    have counted := h.counted_of_turn secured rooted focuses turn touched
    cases turn with
    | take c rest idle queue => exact focused_take idle queue counted
    | finish idle queue unsent =>
      refine .of_unfocused counted ?_
      unfold beginClose
      split <;> rfl
    | missing | refused =>
      refine .of_unfocused counted ?_
      rw [failOpen, withdraw_eq]
      rfl
    | acquired | installed => exact .of_unfocused counted rfl
    | called routine next step rest stage steps =>
      refine .of_unfocused counted ?_
      rw [stage] at focuses
      cases next with
      | focus request => cases focuses
      | _ => rfl
    | forgotten routine facing last stage steps =>
      refine .of_unfocused counted ?_
      cases last <;> rfl
    | worked routine next works stage steps =>
      refine .of_unfocused counted ?_
      rw [(s.resume_returned routine works).idle]
      rfl

theorem Focused.move (h : s.Focused marks) (secured : s.Secured held)
    (rooted : s.executor.stage.Rooted) {m : Move} (enabled : s.enabled m = true) :
    (s.move m).Focused (marks ++ (s.tapMark? m).toList) := by
  by_cases own : m = .task .executor
  · subst own
    exact h.of_turn secured rooted (secured.turn enabled) (Touched.executorStep s)
  · have same := undisturbed_move (s := s) own
    have untaken : (s.tapMark? m).toList.filterMap TapMark.taken? = [] := by
      unfold tapMark?
      split
      · split
        · cases s.session? <;> rfl
        · rfl
      · exact absurd rfl own
      · rfl
    have runs : (s.move m).service.focusRuns = s.service.focusRuns :=
      service_kept own (fun _ _ _ => Simulator.focusRuns_requestFrame _ _)
        (fun _ _ => Simulator.focusRuns_fire _) fun _ _ => rfl
    refine ⟨?_, ?_⟩
    · intro routine request stage
      rw [same.executor] at stage
      rw [same.slot, same.preview, same.settings, display, same.orientation, List.filterMap_append,
        untaken, List.append_nil]
      exact h.serves routine request stage
    · rw [runs, h.counted, published_move own, same.executor, List.countP_append]
      cases s.develops? m <;> rfl

/-! ## Runs -/

section

variable {settings : Settings} {cameras : List CameraSpec} {capacity : Nat} {facing : Facing}
  {moves : List Move}

end

end CameraSystem

end Viewfinder
