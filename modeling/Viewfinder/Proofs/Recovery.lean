import Viewfinder.Proofs.Coherence

/-!
# Recovery from refused rotations

Each rotation of its frames that a device is given is a `Push`. One that is refused is not tried
again: the next comes with the next change of what is recorded. A device turns its frames by the
last push that it accepted, and the last push of all is what is recorded, so that both agree as soon
as one push is accepted again.
-/

namespace Viewfinder

/-- A rotation of its frames that a device is given, and whether the hardware takes parameters. -/
structure Push where
  device : Nat
  degrees : UInt32
  accepted : Bool
deriving DecidableEq, Repr

namespace DeviceCall

def output? : DeviceCall → Option UInt32
  | .setOutputRotation degrees => some degrees
  | _ => none

/-- What a device is asked to turn its frames by, with the next call. -/
def asks (c : DeviceCall) (asked : List UInt32) : List UInt32 := asked ++ c.output?.toList

theorem output?_eq_none {c : DeviceCall} (spares : ∀ rotations, c.rotates rotations = rotations) :
    c.output? = none := by
  cases c with
  | setOutputRotation degrees =>
    have same : degrees = degrees + 1 := congrArg Prod.snd (spares (0, degrees + 1))
    simp at same
  | _ => rfl

end DeviceCall

/-- The rotation that a device stands at after some pushes: the last that it accepted. -/
def Push.stands (pushes : List Push) (device : Nat) : UInt32 :=
  ((pushes.filter fun p => p.device = device ∧ p.accepted).getLast?.map (·.degrees)).getD 0

/-- Where the devices stand after one more push. -/
def Push.turns (p : Push) (outputs : List UInt32) : List UInt32 :=
  if p.accepted then outputs.set p.device p.degrees else outputs

theorem Push.length_turns (p : Push) (outputs : List UInt32) :
    (p.turns outputs).length = outputs.length := by
  unfold turns
  split <;> simp

/-- Devices that stand where they were turned do so after one more push. -/
theorem Push.stands_turns {pushes : List Push} {outputs : List UInt32}
    (h : ∀ i output, outputs[i]? = some output → output = stands pushes i) (p : Push) (i : Nat)
    (output : UInt32) (get : (p.turns outputs)[i]? = some output) :
    output = stands (pushes ++ [p]) i := by
  unfold turns at get
  split at get
  · next accepted =>
    by_cases own : p.device = i
    · subst own
      have lt : p.device < outputs.length := by
        simpa using (List.getElem?_eq_some_iff.1 get).1
      rw [List.getElem?_set_self lt] at get
      simp [stands, List.filter_append, accepted, Option.some.inj get]
    · rw [List.getElem?_set_ne own] at get
      simpa [stands, List.filter_append, own] using h i output get
  · next refused => simpa [stands, List.filter_append, refused] using h i output get

theorem Push.stands_of_last {pushes : List Push} {device : Nat} {last : Push}
    (own : (pushes.filter (·.device = device)).getLast? = some last)
    (taken : last.accepted = true) : stands pushes device = last.degrees := by
  obtain ⟨before, eq⟩ := List.getLast?_eq_some_iff.1 own
  have both : pushes.filter (fun p => p.device = device ∧ p.accepted) =
      (pushes.filter (·.device = device)).filter (·.accepted) := by
    rw [List.filter_filter]
    refine List.filter_congr fun p _ => ?_
    cases p.accepted <;> simp
  rw [stands, both, eq]
  simp [List.filter_append, taken]

/-- A device that is opened just now was turned by nothing. -/
theorem Push.stands_opened {pushes : List Push} {outputs : List UInt32}
    (known : ∀ p ∈ pushes, p.device < outputs.length)
    (h : ∀ i output, outputs[i]? = some output → output = stands pushes i) (i : Nat)
    (output : UInt32) (get : (outputs ++ [0])[i]? = some output) : output = stands pushes i := by
  by_cases before : i < outputs.length
  · rw [List.getElem?_append_left before] at get
    exact h i output get
  · have untouched : pushes.filter (fun p => p.device = i ∧ p.accepted) = [] := by
      refine List.filter_eq_nil_iff.2 fun p mem => ?_
      have := known p mem
      simp only [decide_eq_true_eq, not_and]
      omega
    rw [List.getElem?_append_right (by omega), List.getElem?_singleton] at get
    rw [stands, untouched]
    exact (Option.some.inj (Option.ite_none_right_eq_some.1 get).2).symm

/-- What a device was given, oldest first. -/
def Push.given (pushes : List Push) (device : Nat) : List UInt32 :=
  (pushes.filter (·.device = device)).map (·.degrees)

theorem Push.given_append (pushes added : List Push) (device : Nat) :
    given (pushes ++ added) device = given pushes device ++ given added device := by
  simp [given, List.filter_append]

/-- A device that is opened just now was given nothing. -/
theorem Push.given_eq_nil {pushes : List Push} {device : Nat}
    (known : ∀ p ∈ pushes, p.device < device) : given pushes device = [] := by
  have none : pushes.filter (·.device = device) = [] := by
    refine List.filter_eq_nil_iff.2 fun p mem => ?_
    simpa using Nat.ne_of_lt (known p mem)
  rw [given, none, List.map_nil]

/-- A device was asked for what is recorded, and never for the same twice in a row. -/
def Orientation.Asked (o : Orientation) (asked : List UInt32) : Prop :=
  asked.getLast? = some o.output ∧ asked.IsChain (· ≠ ·)

theorem follows_asks : Follows DeviceCall.asks Orientation.Asked where
  spares := by
    intro steps spares step mem asked
    simp [DeviceCall.asks, DeviceCall.output?_eq_none (spares step mem)]
  turn := by
    rintro device o o' asked ⟨last, chain⟩
    have next (changed : o.output ≠ o'.output) : o'.Asked (asked ++ [o'.output]) := by
      refine ⟨by simp, List.isChain_append.2 ⟨chain, List.isChain_singleton _, ?_⟩⟩
      rintro x mem y ⟨⟩
      rw [last] at mem
      cases mem
      exact changed
    have still (same : o.output = o'.output) : o'.Asked asked := ⟨same ▸ last, chain⟩
    by_cases same : o.display = o'.display <;> by_cases same' : o.output = o'.output <;>
      simp [Routine.turn, same, same', Aims, DeviceCall.asks, DeviceCall.output?, next, still]

theorem configure_asks (device : Nat) (capabilities : Capabilities) (o : Orientation) :
    Aims DeviceCall.asks o.Asked (Routine.configure device capabilities o).steps [] := by
  cases mode : capabilities.continuousMode? <;>
    simp [Routine.configure, mode, Aims, DeviceCall.asks, DeviceCall.output?, DeviceCall.sure,
      Orientation.Asked]

namespace SimulatedDevice

variable {τ : Type}

/-- A call turns the frames of an open device if it asks for that and parameters are taken. -/
theorem output_after_call (d : SimulatedDevice τ) (open_ : d.released = false)
    (faults : SimulatorFaults) (c : DeviceCall) :
    (d.call faults c).2.output =
      if faults.failParameters then d.output else c.output?.getD d.output := by
  cases c <;> simp only [call, open_, DeviceCall.output?] <;> repeat' (first | rfl | split)

end SimulatedDevice

/-- The rotation of its frames of every device. -/
def Simulator.outputs {τ : Type} (s : Simulator τ) : List UInt32 := s.devices.map (·.output)

namespace CameraSystem

variable {s t : CameraSystem (Simulator Ticket)} {held : Option Nat} {pushes : List Push}

/-- What the executor gives a device at a move. -/
def pushes? (s : CameraSystem (Simulator Ticket)) : Move → Option Push
  | .task .executor =>
    match s.executor.stage with
    | .native routine _ => routine.steps.head?.bind fun step =>
      step.call.output?.map fun degrees =>
        ⟨routine.device, degrees, !s.service.faults.failParameters⟩
    | _ => none
  | _ => none

theorem pushes?_of_steps (steps : s.executor.stage.steps = []) :
    s.pushes? (.task .executor) = none := by
  cases stage : s.executor.stage with
  | native routine next =>
    rw [stage] at steps
    simp [pushes?, stage, show routine.steps = [] from steps]
  | idle | opening | stopped | crashed => simp [pushes?, stage]

theorem pushes?_of_native {routine : Routine} {next : Continuation} {step : NativeStep}
    {rest : List NativeStep} (stage : s.executor.stage = .native routine next)
    (steps : routine.steps = step :: rest) :
    s.pushes? (.task .executor) = step.call.output?.map fun degrees =>
      ⟨routine.device, degrees, !s.service.faults.failParameters⟩ := by
  simp [pushes?, stage, steps]

theorem pushes?_of_other {m : Move} (other : m ≠ .task .executor) : s.pushes? m = none := by
  cases m with
  | request | setFaults => rfl
  | task t =>
    cases t with
    | executor => exact absurd rfl other
    | _ => rfl

theorem pushes?_eq_some {m : Move} {p : Push} (pushed : s.pushes? m = some p) :
    ∃ routine next step rest, s.executor.stage = .native routine next ∧
      routine.steps = step :: rest ∧ p.device = routine.device := by
  unfold pushes? at pushed
  split at pushed
  · split at pushed
    · next routine next stage =>
      obtain ⟨step, head, pushed⟩ := Option.bind_eq_some_iff.1 pushed
      obtain ⟨rest, steps⟩ := List.head?_eq_some_iff.1 head
      obtain ⟨degrees, -, rfl⟩ := Option.map_eq_some_iff.1 pushed
      exact ⟨routine, next, step, rest, stage, steps, rfl⟩
    · cases pushed
  · cases pushed

/-- All that a run keeps of what devices were given. -/
structure Recovering (s : CameraSystem (Simulator Ticket)) (pushes : List Push) : Prop where
  tuned : s.Tuned
  known : ∀ p ∈ pushes, p.device < s.service.outputs.length
  asked : s.Leads DeviceCall.asks Orientation.Asked fun camera asked =>
    asked = Push.given pushes camera.device
  stands : ∀ i output, s.service.outputs[i]? = some output → output = Push.stands pushes i

/-- A step of the executor turns a device by what it gives it, or opens one, or does neither. -/
theorem outputs_of_turn (secured : s.Secured held) (turn : Turn s t) :
    t.service.outputs = (s.pushes? (.task .executor)).elim s.service.outputs
        (·.turns s.service.outputs) ∨
      s.pushes? (.task .executor) = none ∧ t.service.outputs = s.service.outputs ++ [0] := by
  have quiet (steps : s.executor.stage.steps = []) (same : t.service = s.service) :
      t.service.outputs = (s.pushes? (.task .executor)).elim s.service.outputs
        (·.turns s.service.outputs) := by
    rw [pushes?_of_steps steps, same]
    rfl
  cases turn with
  | take c rest idle queue =>
    exact .inl (quiet (by rw [idle]; rfl) (service_execute { s with queue := rest } c))
  | finish idle queue unsent =>
    refine .inl (quiet (by rw [idle]; rfl) ?_)
    unfold beginClose
    split <;> rfl
  | missing facing request stage absent =>
    refine .inl (quiet (by rw [stage]; rfl) ?_)
    rw [failOpen, withdraw_eq]
    rfl
  | refused facing request stage present =>
    refine .inl ?_
    rw [pushes?_of_steps (by rw [stage]; rfl), failOpen, withdraw_eq]
    rfl
  | acquired facing request spec capabilities o stage =>
    refine .inr ⟨pushes?_of_steps (by rw [stage]; rfl), ?_⟩
    simp [setStage, Simulator.outputs, Simulator.opened, SimulatedDevice.ofSpec]
  | called routine next step rest stage steps =>
    have holds := secured.holds
    rw [secured.of_native stage steps] at holds
    obtain ⟨d, get, unreleased, -, devices, -⟩ := holds.call step.call
    have made : (routine.perform s.service).2.outputs =
        (s.service.setDevice routine.device (d.call s.service.faults step.call).2).outputs := by
      rw [service_perform steps, Simulator.outputs]
      exact congrArg _ devices
    have turned := d.output_after_call unreleased s.service.faults step.call
    have kept (same : (d.call s.service.faults step.call).2.output = d.output) :
        (routine.perform s.service).2.outputs = s.service.outputs :=
      made.trans (Simulator.map_setDevice get same)
    refine .inl ?_
    show (routine.perform s.service).2.outputs = _
    rw [pushes?_of_native stage steps]
    cases asks : step.call.output? with
    | none =>
      rw [asks] at turned
      exact kept (turned.trans (ite_self _))
    | some degrees =>
      rw [asks] at turned
      cases failing : s.service.faults.failParameters with
      | true =>
        rw [failing] at turned
        exact kept turned
      | false =>
        rw [failing] at turned
        rw [made, Simulator.outputs, Simulator.setDevice, List.map_set, turned]
        rfl
  | installed routine facing request camera o stage steps =>
    exact .inl (quiet (by rw [stage]; exact steps) rfl)
  | forgotten routine facing last stage steps =>
    exact .inl (quiet (by rw [stage]; exact steps) rfl)
  | worked routine next works stage steps =>
    exact .inl (quiet (by rw [stage]; exact steps) (s.resume_returned routine works).service)

theorem Recovering.known_append (h : s.Recovering pushes) (m : Move) :
    ∀ p ∈ pushes ++ (s.pushes? m).toList, p.device < s.service.outputs.length := by
  intro p mem
  rcases List.mem_append.1 mem with before | now
  · exact h.known p before
  · obtain ⟨routine, next, step, rest, stage, steps, device⟩ :=
      pushes?_eq_some (Option.mem_toList.1 now)
    obtain ⟨held, secured⟩ := h.tuned.sound.secured
    have known := secured.holds.known _ (secured.of_native stage steps)
    rw [device]
    simpa [Simulator.outputs] using known

theorem Recovering.asked_of_turn (h : s.Recovering pushes) (turn : Turn s t) :
    t.Leads DeviceCall.asks Orientation.Asked fun camera asked =>
      asked = Push.given (pushes ++ (s.pushes? (.task .executor)).toList) camera.device := by
  obtain ⟨held, secured⟩ := h.tuned.sound.secured
  refine h.asked.of_turn follows_asks h.tuned turn ?_ ?_ ?_
  · intro _ steps camera asked _ given
    simpa [pushes?_of_steps steps] using given
  · rintro routine next step rest stage steps - camera asked engaged rfl
    have device := secured.device_of_engaged engaged stage steps
    refine ⟨_, rfl, ?_⟩
    rw [Push.given_append, pushes?_of_native stage steps, DeviceCall.asks]
    cases step.call.output? <;> simp [Push.given, device]
  · rintro camera asked capabilities o device rfl
    have known := h.known_append (.task .executor)
    rw [Simulator.outputs, List.length_map, ← device] at known
    rw [Push.given_eq_nil known]
    exact configure_asks _ _ _

theorem Recovering.move (h : s.Recovering pushes) {m : Move} (enabled : s.enabled m = true) :
    (s.move m).Recovering (pushes ++ (s.pushes? m).toList) := by
  have tuned := h.tuned.move enabled
  by_cases own : m = .task .executor
  · subst own
    obtain ⟨held, secured⟩ := h.tuned.sound.secured
    have turn := secured.turn enabled
    have known := h.known_append (.task .executor)
    rcases outputs_of_turn secured turn with outputs | ⟨none, outputs⟩
    · refine ⟨tuned, ?_, h.asked_of_turn turn, ?_⟩
      · refine fun p mem => (known p mem).trans_eq ?_
        show _ = s.executorStep.service.outputs.length
        rw [outputs]
        cases s.pushes? (.task .executor) with
        | none => rfl
        | some p => exact (p.length_turns _).symm
      · show ∀ i output, s.executorStep.service.outputs[i]? = some output → _
        rw [outputs]
        cases s.pushes? (.task .executor) with
        | none => simpa using h.stands
        | some p => exact p.stands_turns h.stands
    · have asked := h.asked_of_turn turn
      rw [none, Option.toList_none, List.append_nil] at known asked ⊢
      refine ⟨tuned, fun p mem => ?_, asked, ?_⟩
      · show _ < s.executorStep.service.outputs.length
        rw [outputs, List.length_append]
        exact Nat.lt_add_right _ (known p mem)
      · show ∀ i output, s.executorStep.service.outputs[i]? = some output → _
        rw [outputs]
        exact Push.stands_opened known h.stands
  · have outputs : (s.move m).service.outputs = s.service.outputs :=
      service_kept own (fun _ _ _ => Simulator.map_requestFrame (fun _ _ _ => rfl) _ _)
        (fun _ _ => Simulator.map_fire (fun _ _ _ => rfl) _) fun _ _ => rfl
    rw [pushes?_of_other own, Option.toList_none, List.append_nil]
    refine ⟨tuned, ?_, h.asked.of_other own fun _ _ given => given, ?_⟩
    · rw [outputs]
      exact h.known
    · rw [outputs]
      exact h.stands

theorem recovering_of_run? {settings : Settings} {cameras : List CameraSpec} {capacity : Nat}
    {facing : Facing} {moves : List Move}
    (run : (ofCameras settings cameras capacity facing).run? moves = some t) :
    t.Recovering ((ofCameras settings cameras capacity facing).along pushes? moves) := by
  refine run?_notes pushes? (P := Recovering) (fun _ _ _ h enabled => h.move enabled) run ?_
  refine ⟨tuned_ofCameras settings cameras capacity facing, ?_, leads_of_engaged rfl, ?_⟩
  · rintro p ⟨⟩
  · rintro i output ⟨⟩

/-- Between two commands the device of the open camera turns its frames by the last rotation that it
was given while it took parameters. What it was given changed each time and ended with the output
rotation that is recorded, so that it turns its frames as recorded if it took the last of all,
whatever it refused before. -/
theorem output_recovers {settings : Settings} {cameras : List CameraSpec} {capacity : Nat}
    {facing : Facing} {moves : List Move}
    (run : (ofCameras settings cameras capacity facing).run? moves = some t)
    (idle : t.executor.stage = .idle) (opened : t.state = .opened) :
    let pushes := (ofCameras settings cameras capacity facing).along pushes? moves
    ∃ camera d o last, t.slot = some camera ∧ t.service.devices[camera.device]? = some d ∧
      t.orientation = some o ∧
      (pushes.filter (·.device = camera.device)).getLast? = some last ∧
      last.degrees = o.output ∧
      ((pushes.filter (·.device = camera.device)).map (·.degrees)).IsChain (· ≠ ·) ∧
      d.output = Push.stands pushes camera.device ∧
      (last.accepted = true → d.output = o.output) := by
  intro pushes
  have recovering := recovering_of_run? run
  obtain ⟨held, secured⟩ := recovering.tuned.sound.secured
  rcases secured.between (.inl idle) with ⟨-, closed, -⟩ | ⟨camera, slot, -, rfl⟩
  · cases closed.symm.trans opened
  obtain ⟨d, get, -⟩ := secured.holds.device
  obtain ⟨o, orientation, last, chain⟩ :=
    recovering.asked.met recovering.tuned.oriented idle slot rfl
  have stands : d.output = Push.stands pushes camera.device := by
    refine recovering.stands _ _ ?_
    rw [Simulator.outputs, List.getElem?_map, get]
    rfl
  rw [Push.given, List.getLast?_map] at last
  obtain ⟨push, own, degrees⟩ := Option.map_eq_some_iff.1 last
  refine ⟨camera, d, o, push, slot, get, orientation, own, degrees, chain, stands, fun taken => ?_⟩
  rw [stands, Push.stands_of_last own taken, degrees]

/-- The camera refuses to turn its frames when it is opened; the next reading is another. -/
def refusedOnce : List Move :=
  .flatten [[.setFaults { failParameters := true }, .request (.start .back)], turns 7,
    [.setFaults {}, .request (.tiltDevice 185)], turns 3]

theorem output_recovers_refusedOnce :
    ∃ t camera d o, (ofCameras {} Simulator.dual 64 .back).run? refusedOnce = some t ∧
      t.slot = some camera ∧ t.service.devices[camera.device]? = some d ∧
      t.orientation = some o ∧ o.output = 270 ∧ d.output = 270 ∧
      (ofCameras {} Simulator.dual 64 .back).along pushes? refusedOnce =
        [⟨0, 90, false⟩, ⟨0, 270, true⟩] := by
  have checked : ((ofCameras {} Simulator.dual 64 .back).run? refusedOnce).any fun t =>
      t.executor.stage = .idle ∧ t.state = .opened ∧ t.slot.map (·.device) = some 0 := by
    decide +kernel
  have pushed : (ofCameras {} Simulator.dual 64 .back).along pushes? refusedOnce =
      [⟨0, 90, false⟩, ⟨0, 270, true⟩] := by
    decide +kernel
  obtain ⟨t, run, facts⟩ := Option.any_eq_true _ _ |>.1 checked
  obtain ⟨idle, opened, open_⟩ := of_decide_eq_true facts
  obtain ⟨camera, d, o, last, slot, get, orientation, own, degrees, -, -, recovers⟩ :=
    output_recovers run idle opened
  have device : camera.device = 0 := by simpa [slot] using open_
  rw [pushed, device] at own
  obtain rfl : ⟨0, 270, true⟩ = last := Option.some.inj own
  exact ⟨t, camera, d, o, run, slot, get, orientation, degrees.symm,
    (recovers rfl).trans degrees.symm, pushed⟩

/-- The camera refuses to turn its frames when it is opened; the next reading is the same. -/
def refusedForGood : List Move :=
  .flatten [[.setFaults { failParameters := true }, .request (.start .back)], turns 7,
    [.setFaults {}, .request (.turnDevice .natural), .task .executor]]

/-- A command that changes nothing gives the device nothing, though it would be taken. -/
theorem refusedForGood_stands :
    ∃ t, (ofCameras {} Simulator.dual 64 .back).run? refusedForGood = some t ∧
      t.executor.stage = .idle ∧ t.state = .opened ∧ t.service.faults = {} ∧
      ((ofCameras {} Simulator.dual 64 .back).along executes? refusedForGood).getLast? =
        some (.turnDevice .natural) ∧
      t.orientation.map Orientation.output = some 90 ∧
      t.service.devices.map (·.output) = [0] := by
  have checked : ((ofCameras {} Simulator.dual 64 .back).run? refusedForGood).any fun t =>
      t.executor.stage = .idle ∧ t.state = .opened ∧ t.service.faults = {} ∧
        t.orientation.map Orientation.output = some 90 ∧
        t.service.devices.map (·.output) = [0] := by
    decide +kernel
  obtain ⟨t, run, facts⟩ := Option.any_eq_true _ _ |>.1 checked
  obtain ⟨idle, opened, faults, orientation, outputs⟩ := of_decide_eq_true facts
  exact ⟨t, run, idle, opened, faults, by decide +kernel, orientation, outputs⟩

end CameraSystem

end Viewfinder
