import Viewfinder.Proofs.Focusing
import Viewfinder.Proofs.Tuning

/-!
# A focus that is refused

The calls that focus a camera are made one after another, and a refusal ends them without taking
back those that were made. `Standing` tells how far they have come and how the device is set by
then. A refusal can only come from setting the areas, before which at most the mode was changed.
-/

namespace Viewfinder

/-- Whether a camera changes to the mode in which it focuses on an area. -/
def Capabilities.readies (c : Capabilities) : Bool := c.hasFocusAreas && c.supports .auto

/-- How a device is focused and metered. -/
structure FocusSetting where
  mode : Option FocusMode
  area : Option Rect
  metering : Option Rect
  runs : UInt32

/-- The same in the mode for areas, where a camera changes to it. -/
def FocusSetting.readied (f : FocusSetting) (c : Capabilities) : FocusSetting :=
  if c.readies then { f with mode := some .auto } else f

namespace SimulatedDevice

variable {τ : Type}

def focusSetting (d : SimulatedDevice τ) : FocusSetting :=
  ⟨d.focusMode, d.focusArea, d.meteringArea, d.focusRuns⟩

end SimulatedDevice

namespace Routine

variable {r : Routine} {step : NativeStep} {rest : List NativeStep} {service : Simulator Ticket}

theorem perform_done (steps : r.steps = step :: rest)
    (done : (service.call r.device step.call).1 = .done ()) :
    r.perform service = ({ r with steps := rest }, (service.call r.device step.call).2) := by
  simp only [perform, steps, CameraService.call]
  split <;> simp_all

theorem perform_abort {e : CameraError} (steps : r.steps = step :: rest)
    (refused : (service.call r.device step.call).1 = .refused e)
    (abort : step.onRefusal = .abort) :
    r.perform service =
      ({ r with steps := [], failure := some e }, (service.call r.device step.call).2) := by
  simp only [perform, steps, CameraService.call]
  split <;> simp_all

theorem perform_crashed (steps : r.steps = step :: rest)
    (crashed : (service.call r.device step.call).1 = .crashed) :
    r.perform service =
      ({ r with steps := [], crashed := true }, (service.call r.device step.call).2) := by
  simp only [perform, steps, CameraService.call]
  split <;> simp_all

/-- The call that sets the areas which a camera has. -/
def areas (capabilities : Capabilities) (request : FocusRequest) : DeviceCall :=
  .setFocusAreas (if capabilities.hasFocusAreas then some request.focus else none)
    (if capabilities.hasMeteringAreas then some request.metering else none)

/-- The calls that come after the mode. -/
def applying (capabilities : Capabilities) (request : FocusRequest) : List NativeStep :=
  [⟨areas capabilities request, .abort⟩, ⟨.autoFocus, .abort⟩]

theorem focus_eq (device : Nat) (capabilities : Capabilities) (request : FocusRequest) :
    focus device capabilities request =
      { device := device
        steps := ⟨.cancelAutoFocus, .ignore⟩ ::
          (if capabilities.readies then [⟨.setFocusMode .auto, .abort⟩] else []) ++
            applying capabilities request } := by
  cases focuses : capabilities.hasFocusAreas <;> cases auto : capabilities.supports .auto <;>
    simp [focus, applying, areas, Capabilities.readies, focuses, auto]

/-- How far the calls that focus a camera have come, and how its device is set by then; `f` is how
it was set before. -/
inductive Standing (camera : OpenCamera) (request : FocusRequest) (f : FocusSetting) :
    Routine → FocusSetting → Prop
  | begun : Standing camera request f (focus camera.device camera.capabilities request) f
  | cancelled (readies : camera.capabilities.readies = true) :
    Standing camera request f
      { device := camera.device
        steps := ⟨.setFocusMode .auto, .abort⟩ :: applying camera.capabilities request } f
  | readied : Standing camera request f
      { device := camera.device, steps := applying camera.capabilities request }
      (f.readied camera.capabilities)
  | refused : Standing camera request f
      { device := camera.device, steps := [],
        failure := some (.parameters "simulated parameter rejection") }
      (f.readied camera.capabilities)
  | aimed (g : FocusSetting) : Standing camera request f
      { device := camera.device, steps := [⟨.autoFocus, .abort⟩] } g
  | crashed (g : FocusSetting) : Standing camera request f
      { device := camera.device, steps := [], crashed := true } g
  | done (g : FocusSetting) : Standing camera request f { device := camera.device, steps := [] } g

variable {camera : OpenCamera} {request : FocusRequest} {f : FocusSetting}

/-- The next call takes them further. -/
theorem Standing.perform {d : SimulatedDevice Ticket}
    (h : Standing camera request f r d.focusSetting)
    (holds : service.Holds (some camera.device)) (get : service.devices[camera.device]? = some d)
    (reported : d.spec.capabilities = camera.capabilities) (going : r.steps ≠ []) :
    ∃ d', (r.perform service).2.devices[camera.device]? = some d' ∧ d'.spec = d.spec ∧
      Standing camera request f (r.perform service).1 d'.focusSetting := by
  have called {c : DeviceCall} {outcome : Outcome Unit} {d' : SimulatedDevice Ticket}
      (made : d.call service.faults c = (outcome, d')) :
      (service.call camera.device c).1 = outcome ∧
        (service.call camera.device c).2.devices[camera.device]? = some d' := by
    obtain ⟨e, get', -, answer, devices, -⟩ := holds.call c
    obtain rfl := Option.some.inj (get.symm.trans get')
    rw [answer, devices, made]
    exact ⟨rfl, List.getElem?_set_self (List.getElem?_eq_some_iff.1 get).1⟩
  have open_ : ¬d.released = true := by
    rw [(holds.released camera.device d get).2 rfl]
    exact Bool.false_ne_true
  generalize setting : d.focusSetting = g at h
  cases h with
  | begun =>
    obtain ⟨outcome, device⟩ := called (c := .cancelAutoFocus) rfl
    rw [focus_eq, perform_done rfl outcome]
    refine ⟨d, device, rfl, ?_⟩
    rw [setting]
    cases readies : camera.capabilities.readies with
    | true => exact .cancelled readies
    | false =>
      have same : f.readied camera.capabilities = f := by simp [FocusSetting.readied, readies]
      have reached := @Standing.readied camera request f
      rwa [same] at reached
  | cancelled readies =>
    have supports : d.spec.capabilities.supports .auto = true := by
      rw [reported]
      exact (Bool.and_eq_true _ _ ▸ readies).2
    obtain ⟨outcome, device⟩ := called (c := .setFocusMode .auto) <| by
      rw [SimulatedDevice.call, if_neg open_, if_pos supports]
    rw [perform_done rfl outcome]
    refine ⟨_, device, rfl, ?_⟩
    have set : SimulatedDevice.focusSetting { d with focusMode := some .auto } =
        f.readied camera.capabilities := by
      rw [FocusSetting.readied, if_pos readies, ← setting]
      rfl
    rw [set]
    exact .readied
  | readied =>
    by_cases fail : service.faults.failParameters = true
    · obtain ⟨outcome, device⟩ := called (c := areas camera.capabilities request) <| by
        rw [areas, SimulatedDevice.call, if_pos fail]
      rw [perform_abort rfl outcome rfl]
      refine ⟨d, device, rfl, ?_⟩
      rw [setting]
      exact .refused
    · obtain ⟨outcome, device⟩ := called (c := areas camera.capabilities request) <| by
        rw [areas, SimulatedDevice.call, if_neg fail, if_neg open_]
      rw [perform_done rfl outcome]
      exact ⟨_, device, rfl, .aimed _⟩
  | aimed =>
    by_cases full : d.focusRuns + 1 = 0
    · obtain ⟨outcome, device⟩ := called (c := .autoFocus) <| by
        rw [SimulatedDevice.call, if_neg open_, if_pos full]
      rw [perform_crashed rfl outcome]
      exact ⟨d, device, rfl, .crashed _⟩
    · obtain ⟨outcome, device⟩ := called (c := .autoFocus) <| by
        rw [SimulatedDevice.call, if_neg open_, if_neg full]
      rw [perform_done rfl outcome]
      exact ⟨_, device, rfl, .done _⟩
  | refused | crashed | done => exact absurd rfl going

theorem Standing.device {g : FocusSetting} (h : Standing camera request f r g) :
    r.device = camera.device := by
  cases h <;> rfl

/-- Where they have failed, at most the mode was changed. -/
theorem Standing.of_failure {g : FocusSetting} {e : CameraError}
    (h : Standing camera request f r g) (failed : r.failure = some e) :
    r.steps = [] ∧ r.crashed = false ∧ g = f.readied camera.capabilities := by
  cases h with
  | refused => exact ⟨rfl, rfl, rfl⟩
  | begun | cancelled | readied | aimed | crashed | done => cases failed

end Routine

namespace CameraSystem

variable {s t u : CameraSystem (Simulator Ticket)} {held : Option Nat} {camera : OpenCamera}
  {request : FocusRequest} {f : FocusSetting}

/-- From `s` the executor has come to a point at which it focuses `camera`, whose device was set to
`f`. No focus was published since. -/
structure Attempt (s u : CameraSystem (Simulator Ticket)) (camera : OpenCamera) (f : FocusSetting) :
    Prop where
  silent : ∃ added, u.published = s.published ++ added ∧ ∀ event ∈ added, event.isFocus = false
  standing : ∃ r request d, Undisturbed (s.setStage (.native r (.focus request))) u ∧
    u.service.devices[camera.device]? = some d ∧ d.spec.capabilities = camera.capabilities ∧
    Routine.Standing camera request f r d.focusSetting

/-- Other tasks and users do not come in between. -/
theorem Attempt.move_of_other (h : Attempt s u camera f) {m : Move}
    (other : m ≠ .task .executor) : Attempt s (u.move m) camera f := by
  obtain ⟨⟨added, published, quiet⟩, r, request, d, same, get, reported, standing⟩ := h
  have undisturbed := undisturbed_move (s := u) other
  let look (service : Simulator Ticket) := service.devices.map fun d => (d.spec, d.focusSetting)
  have kept : look (u.move m).service = look u.service :=
    service_kept other (fun _ _ _ => Simulator.map_requestFrame (fun _ _ _ => rfl) _ _)
      (fun _ _ => Simulator.map_fire (fun _ _ _ => rfl) _) fun _ _ => rfl
  have seen := congrArg (·[camera.device]?) kept
  simp only [look, List.getElem?_map, get, Option.map_some, Option.map_eq_some_iff,
    Prod.mk.injEq] at seen
  obtain ⟨d', get', spec, setting⟩ := seen
  refine ⟨⟨added ++ ((u.develops? m).map Event.imageCaptured).toList, ?_, ?_⟩, r, request,
    d', ?_, get', ?_, ?_⟩
  · rw [published_move other, published, List.append_assoc]
  · intro event mem
    rcases List.mem_append.1 mem with mem | mem
    · exact quiet event mem
    · obtain ⟨image, -, rfl⟩ := Option.map_eq_some_iff.1 (Option.mem_toList.1 mem)
      rfl
  · exact ⟨undisturbed.settings.trans same.settings, undisturbed.slot.trans same.slot,
      undisturbed.state.trans same.state, undisturbed.orientation.trans same.orientation,
      undisturbed.preview.trans same.preview, undisturbed.executor.trans same.executor⟩
  · rw [spec, reported]
  · rw [setting]
    exact standing

/-- The executor makes the next call, or has made the last. -/
theorem Attempt.of_turn (h : Attempt s u camera f) (secured : u.Secured held)
    (turn : Turn u t) : Attempt s t camera f ∨ t.executor.stage.focus? = none := by
  obtain ⟨silent, r, request, d, same, get, reported, standing⟩ := h
  have stage : u.executor.stage = .native r (.focus request) := by
    rw [same.executor]
    rfl
  cases turn with
  | take c rest idle | finish idle => cases stage.symm.trans idle
  | missing facing wanted opening | refused facing wanted opening
  | acquired facing wanted spec capabilities o opening => cases stage.symm.trans opening
  | installed routine' facing wanted camera' o installs => cases stage.symm.trans installs
  | forgotten routine' facing last closes => cases stage.symm.trans closes
  | called routine' next step rest stage' steps =>
    cases stage.symm.trans stage'
    have holds := secured.holds
    rw [secured.of_native stage steps, standing.device] at holds
    obtain ⟨d', get', spec, standing⟩ := standing.perform holds get reported (by simp [steps])
    refine .inl ⟨silent, (r.perform u.service).1, request, d', ⟨same.settings, same.slot,
      same.state, same.orientation, same.preview, ?_⟩, get', by rw [spec, reported], standing⟩
    simp only [setStage, same.executor]
  | worked routine' next works stage' steps =>
    right
    rw [(u.resume_returned routine' works).idle]
    rfl

/-- Without a command that takes a tap, nothing is focused. -/
theorem focus?_of_turn (still : u.executor.stage.focus? = none)
    (turn : Turn u t) (other : u.executes? (.task .executor) ≠ some .applyFocus) :
    t.executor.stage.focus? = none := by
  cases turn with
  | take c rest idle queue =>
    refine focus?_execute { u with queue := rest } idle fun eq => other ?_
    rw [executes?_of_idle idle, queue, eq]
    rfl
  | finish idle queue unsent =>
    unfold beginClose
    split <;> rfl
  | missing | refused =>
    rw [failOpen, withdraw_eq]
    rfl
  | acquired | installed => rfl
  | called routine next step rest stage steps =>
    rw [stage] at still
    cases next with
    | focus => cases still
    | _ => rfl
  | forgotten routine facing last stage steps => cases last <;> rfl
  | worked routine next works stage steps =>
    rw [(u.resume_returned routine works).idle]
    rfl

/-- As long as no other command is begun, the executor is at it or has done with it. -/
theorem Attempt.of_run {moves : List Move} (secured : ∃ held, u.Secured held)
    (h : Attempt s u camera f ∨ u.executor.stage.focus? = none)
    (run : u.run? moves = some t) (alone : u.along executes? moves = []) :
    Attempt s t camera f ∨ t.executor.stage.focus? = none := by
  induction moves generalizing u with
  | nil =>
    cases run
    exact h
  | cons m rest ih =>
    obtain ⟨enabled, run⟩ := run?_cons_eq_some.1 run
    obtain ⟨first, later⟩ := List.append_eq_nil_iff.1 alone
    obtain ⟨held, secured⟩ := secured
    refine ih (secured.move enabled) ?_ run later
    by_cases own : m = .task .executor
    · subst own
      have turn : Turn u (u.move (.task .executor)) := secured.turn enabled
      rcases h with attempt | still
      · exact attempt.of_turn secured turn
      · have none_ : u.executes? (.task .executor) = none := by simpa using first
        exact .inr (focus?_of_turn still turn (by simp [none_]))
    · rcases h with attempt | still
      · exact .inl (attempt.move_of_other own)
      · exact .inr (by rwa [(undisturbed_move own).executor])

/-- The device of the open camera has the capabilities that the system knows of it. -/
theorem Tuned.device (h : s.Tuned) (idle : s.executor.stage = .idle) (slot : s.slot = some camera) :
    ∃ d, s.service.devices[camera.device]? = some d ∧ d.released = false ∧
      d.spec.capabilities = camera.capabilities := by
  obtain ⟨held, secured⟩ := h.sound.secured
  have holds := secured.holds
  rw [(secured.of_slot slot).2] at holds
  obtain ⟨d, get, unreleased⟩ := holds.device
  obtain ⟨g, fitted⟩ := h.sized.fitted camera (by rw [engaged?_of_idle idle, slot])
  have last := (holds.last? h.sized.newest get).symm.trans fitted.last
  refine ⟨d, get, unreleased, ?_⟩
  rw [fitted.capabilities, ← Option.some.inj last]
  rfl

theorem move_applyFocus {rest : List Command} (idle : s.executor.stage = .idle)
    (queue : s.queue = .applyFocus :: rest) :
    s.move (.task .executor) = { s with queue := rest }.applyFocus := by
  simp only [move, step, executorStep, idle, queue]
  rfl

/-- Taking the tap begins to focus, or does not. -/
theorem Attempt.begin {rest : List Command} {tap : Tap} {d : SimulatedDevice Ticket}
    (idle : s.executor.stage = .idle) (queue : s.queue = .applyFocus :: rest)
    (slot : s.slot = some camera) (waits : s.tap = some tap)
    (get : s.service.devices[camera.device]? = some d)
    (reported : d.spec.capabilities = camera.capabilities) :
    Attempt s (s.move (.task .executor)) camera d.focusSetting ∨
      (s.move (.task .executor)).executor.stage.focus? = none := by
  rw [move_applyFocus idle queue]
  rcases applyFocus_taken { s with queue := rest } waits with
    eq | ⟨camera', preview, slot', -, ⟨-, eq⟩ | ⟨request, -, eq⟩⟩
  · rw [eq]
    exact .inr (by rw [idle]; rfl)
  · rw [eq]
    exact .inr rfl
  · obtain rfl := Option.some.inj (slot.symm.trans slot')
    rw [eq]
    exact .inl ⟨⟨[], (List.append_nil _).symm, by simp⟩, _, request, d,
      ⟨rfl, rfl, rfl, rfl, rfl, rfl⟩, get, reported, .begun⟩

theorem run?_call {r : Routine} {next : Continuation} {step : NativeStep} {rest : List NativeStep}
    (stage : s.executor.stage = .native r next) (steps : r.steps = step :: rest)
    (moves : List Move) : s.run? (.task .executor :: moves) =
      ({ s with service := (r.perform s.service).2 }.setStage
        (.native (r.perform s.service).1 next)).run? moves := by
  have enabled : s.enabled (.task .executor) = true := by
    simp only [enabled, ready, executorReady, stage]
  have made : s.move (.task .executor) = { s with service := (r.perform s.service).2 }.setStage
      (.native (r.perform s.service).1 next) := by
    simp only [move, CameraSystem.step, executorStep, stage, steps, List.isEmpty_cons]
    rfl
  rw [run?, if_pos enabled, made]

/-- The call that sets the areas is refused, and the command ends. -/
theorem run?_applying {d : SimulatedDevice Ticket}
    (stage : s.executor.stage = .native
      { device := camera.device, steps := Routine.applying camera.capabilities request }
      (.focus request))
    (get : s.service.devices[camera.device]? = some d)
    (refuses : s.service.faults.failParameters = true) :
    s.run? [.task .executor, .task .executor] = some (s.setStage .idle) := by
  have answer : s.service.call camera.device (Routine.areas camera.capabilities request) =
      (.refused (.parameters "simulated parameter rejection"), s.service) :=
    Simulator.call_same get (by rw [Routine.areas, SimulatedDevice.call, if_pos refuses])
  rw [run?_call stage rfl, Routine.perform_abort rfl (congrArg Prod.fst answer) rfl, answer]
  rfl

/-- With the device refusing parameters, only the mode has changed when the executor has made the
calls by itself. -/
theorem run?_focus {d : SimulatedDevice Ticket}
    (stage : s.executor.stage =
      .native (.focus camera.device camera.capabilities request) (.focus request))
    (get : s.service.devices[camera.device]? = some d) (unreleased : d.released = false)
    (reported : d.spec.capabilities = camera.capabilities)
    (refuses : s.service.faults.failParameters = true) :
    ∃ n, s.run? (List.replicate n (.task .executor)) =
      some ({ s with service := s.service.setDevice camera.device { d with
        focusMode := if camera.capabilities.readies then some .auto else d.focusMode }
          }.setStage .idle) := by
  have cancelled : s.service.call camera.device .cancelAutoFocus = (.done (), s.service) :=
    Simulator.call_same get rfl
  rw [Routine.focus_eq] at stage
  cases readies : camera.capabilities.readies with
  | false =>
    rw [readies] at stage
    refine ⟨3, ?_⟩
    have ended := run?_applying (s := s.setStage (.native
      { device := camera.device, steps := Routine.applying camera.capabilities request }
      (.focus request))) rfl get refuses
    rw [List.replicate_succ, run?_call stage rfl,
      Routine.perform_done rfl (congrArg Prod.fst cancelled), cancelled]
    refine ended.trans ?_
    have same : { d with focusMode := if false then some .auto else d.focusMode } = d := rfl
    rw [same, Simulator.setDevice_self get]
    rfl
  | true =>
    rw [readies] at stage
    refine ⟨4, ?_⟩
    have supports : d.spec.capabilities.supports .auto = true := by
      rw [reported]
      exact (Bool.and_eq_true _ _ ▸ readies).2
    let e : SimulatedDevice Ticket := { d with focusMode := some .auto }
    have moded : s.service.call camera.device (.setFocusMode .auto) =
        (.done (), s.service.setDevice camera.device e) :=
      Simulator.call_eq get (by
        rw [SimulatedDevice.call, if_neg (by simp [unreleased]), if_pos supports]) rfl
    have get' : (s.service.setDevice camera.device e).devices[camera.device]? = some e :=
      List.getElem?_set_self (List.getElem?_eq_some_iff.1 get).1
    have ended := run?_applying
      (s := { s with service := s.service.setDevice camera.device e }.setStage (.native
        { device := camera.device, steps := Routine.applying camera.capabilities request }
        (.focus request))) rfl get' refuses
    rw [List.replicate_succ, run?_call stage rfl,
      Routine.perform_done rfl (congrArg Prod.fst cancelled), cancelled, List.replicate_succ,
      run?_call rfl rfl, Routine.perform_done rfl (congrArg Prod.fst moded)]
    dsimp only [setStage]
    rw [moded]
    exact ended

/-- The command by itself changes no more than that, but for the tap that it takes. -/
theorem run?_rejected {rest : List Command} {tap : Tap} {preview : Size}
    {d : SimulatedDevice Ticket} (idle : s.executor.stage = .idle)
    (queue : s.queue = .applyFocus :: rest) (slot : s.slot = some camera)
    (shown : s.preview = some preview) (waits : s.tap = some tap)
    (found : s.settings.focusMapper.request? tap preview s.display camera.capabilities =
      some (some request))
    (get : s.service.devices[camera.device]? = some d) (unreleased : d.released = false)
    (reported : d.spec.capabilities = camera.capabilities)
    (refuses : s.service.faults.failParameters = true) :
    ∃ n, s.run? (List.replicate n (.task .executor)) = some { s with
      queue := rest
      tap := none
      service := s.service.setDevice camera.device { d with
        focusMode := if camera.capabilities.readies then some .auto else d.focusMode } } := by
  have enabled : s.enabled (.task .executor) = true := by
    simp only [enabled, ready, executorReady, idle, queue]
    rfl
  have begun : s.move (.task .executor) = { s with queue := rest, tap := none }.setStage
      (.native (.focus camera.device camera.capabilities request) (.focus request)) := by
    rw [move_applyFocus idle queue]
    simp only [applyFocus, waits]
    split
    · next camera' preview' slot' shown' =>
      obtain rfl := Option.some.inj (slot.symm.trans slot')
      obtain rfl := Option.some.inj (shown.symm.trans shown')
      split
      · next overflows => cases overflows.symm.trans found
      · next none_ => cases none_.symm.trans found
      · next request' some_ =>
        obtain rfl := Option.some.inj (Option.some.inj (some_.symm.trans found))
        rfl
    · next none_ => exact absurd shown (none_ camera preview slot)
  obtain ⟨n, ended⟩ := run?_focus (s := { s with queue := rest, tap := none }.setStage
    (.native (.focus camera.device camera.capabilities request) (.focus request))) rfl get
    unreleased reported refuses
  refine ⟨n + 1, ?_⟩
  rw [List.replicate_succ, run?, if_pos enabled, begun, ended]
  simp only [setStage, ← idle]

section

variable {settings : Settings} {cameras : List CameraSpec} {capacity : Nat} {facing : Facing}
  {before : List Move} {rest : List Command} {tap : Tap} {preview : Size}

/-- A focus that the device refuses. Where the command runs by itself while the device refuses
parameters, it changes nothing but the tap that it takes and the focus mode, and the mode only on a
camera that has focus areas and the mode for them. Whatever else happens while the command runs, and
whatever was refused, by its end no focus was published, the areas and the runs of the autofocus are
as before, and the mode is as it was said; nor is anything that only the executor writes. -/
theorem refused_focus_changes
    (run : (ofCameras settings cameras capacity facing).run? before = some s)
    (idle : s.executor.stage = .idle) (queue : s.queue = .applyFocus :: rest)
    (slot : s.slot = some camera) (shown : s.preview = some preview) (waits : s.tap = some tap) :
    ∃ d, s.service.devices[camera.device]? = some d ∧
      (∀ request, s.service.faults.failParameters = true →
        s.settings.focusMapper.request? tap preview s.display camera.capabilities =
          some (some request) →
        ∃ n, s.run? (List.replicate n (.task .executor)) = some { s with
          queue := rest
          tap := none
          service := s.service.setDevice camera.device { d with
            focusMode := if camera.capabilities.readies then some .auto else d.focusMode } }) ∧
      ∀ moves t routine request e, s.run? (.task .executor :: moves) = some t →
        (s.move (.task .executor)).along executes? moves = [] →
        t.executor.stage = .native routine (.focus request) → routine.failure = some e →
        ∃ d' added, (t.move (.task .executor)).service.devices[camera.device]? = some d' ∧
          d'.focusSetting = d.focusSetting.readied camera.capabilities ∧
          (t.move (.task .executor)).published = s.published ++ added ∧
          (∀ event ∈ added, event.isFocus = false) ∧
          Undisturbed s (t.move (.task .executor)) := by
  have tuned : s.Tuned := run?_keeps (fun _ _ h => h.move) run
    (tuned_ofCameras settings cameras capacity facing)
  obtain ⟨d, get, unreleased, reported⟩ := tuned.device idle slot
  refine ⟨d, get, fun request refuses found => run?_rejected idle queue slot shown waits found get
    unreleased reported refuses, ?_⟩
  intro moves t routine request e later alone stage failed
  obtain ⟨enabled, later⟩ := run?_cons_eq_some.1 later
  obtain ⟨held, secured⟩ := tuned.sound.secured
  rcases Attempt.of_run (secured.move enabled) (Attempt.begin idle queue slot waits get reported)
    later alone with ⟨⟨added, published, quiet⟩, r, request', d', same, get', -, standing⟩ | still
  · have executor := same.executor
    obtain rfl : r = routine := by
      have stages := congrArg Executor.stage executor
      rw [stage] at stages
      cases stages
      rfl
    obtain ⟨steps, uncrashed, setting⟩ := standing.of_failure failed
    have ended : t.move (.task .executor) = t.setStage .idle := by
      simp only [move, step, executorStep, stage, steps, List.isEmpty_nil, if_true, resume,
        Routine.result?, uncrashed, failed]
      rfl
    rw [ended]
    refine ⟨d', added, get', setting, published, quiet, same.settings, same.slot, same.state,
      same.orientation, same.preview, ?_⟩
    simp only [setStage, executor, ← idle]
  · rw [stage] at still
    cases still

end

/-- The open camera has its preview, parameters are refused from now on, and a tap was taken. -/
def tappedRefusing : List Move :=
  .flatten [
    [.request (.setViewport ⟨480, 640⟩), .request (.start .back)], turns 7,
    [.task (.preparation 1)], turns 5,
    [.setFaults { failParameters := true }, .request (.focusOn ⟨.finite 10, .finite 10⟩)]]

/-- The calls of the command, with another tap and a turn of the device in between. -/
def busyMeanwhile : List Move :=
  [.task .executor, .request (.focusOn ⟨.finite 20, .finite 20⟩), .task .executor,
    .request (.turnDevice .natural), .task .executor]

theorem refused_focus_changes_meanwhile :
    ∃ s t d d', (ofCameras {} Simulator.dual 64 .back).run? tappedRefusing = some s ∧
      s.service.devices[0]? = some d ∧
      (∃ n, s.run? (List.replicate n (.task .executor)) = some { s with
        queue := []
        tap := none
        service := s.service.setDevice 0 { d with focusMode := some .auto } }) ∧
      s.run? (.task .executor :: busyMeanwhile) = some t ∧
      (t.move (.task .executor)).service.devices[0]? = some d' ∧
      d'.focusSetting = { d.focusSetting with mode := some .auto } ∧
      Undisturbed s (t.move (.task .executor)) := by
  have checked : ((ofCameras {} Simulator.dual 64 .back).run? tappedRefusing).any fun s =>
      (s.executor.stage = .idle ∧ s.queue = [.applyFocus] ∧
        s.service.faults.failParameters = true) ∧
      s.slot.any fun camera => s.preview.any fun preview => s.tap.any fun tap =>
        (camera.device = 0 ∧ camera.capabilities.readies = true) ∧
        (s.settings.focusMapper.request? tap preview s.display camera.capabilities).any
          fun found => found.any fun request => (s.run? (.task .executor :: busyMeanwhile)).any fun t =>
            (s.move (.task .executor)).along executes? busyMeanwhile = [] ∧
              t.executor.stage = .native
                { device := 0, steps := [],
                  failure := some (.parameters "simulated parameter rejection") }
                (.focus request) := by
    decide +kernel
  obtain ⟨s, run, facts⟩ := Option.any_eq_true _ _ |>.1 checked
  obtain ⟨⟨idle, queue, refuses⟩, camera, slot, preview, shown, tap, waits, ⟨first, readies⟩,
      _, found, request, rfl, t, later, alone, stage⟩ := by
    simpa only [decide_eq_true_eq, Option.any_eq_true] using facts
  obtain ⟨d, get, itself, changes⟩ := refused_focus_changes run idle queue slot shown waits
  have ended := itself request refuses found
  obtain ⟨d', added, get', setting, -, -, same⟩ :=
    changes _ t _ request _ later alone stage rfl
  rw [first, if_pos readies] at ended
  rw [first] at get get'
  rw [FocusSetting.readied, if_pos readies] at setting
  exact ⟨s, t, d, d', run, get, ended, later, get', setting, same⟩

/-- The mode is not set back. -/
theorem tappedRefusing_changes_mode :
    ∃ s u, (ofCameras {} Simulator.dual 64 .back).run? tappedRefusing = some s ∧
      s.executor.stage = .idle ∧ s.state = .opened ∧ s.queue = [.applyFocus] ∧
      s.preview.isSome = true ∧ s.tap.isSome = true ∧ s.service.faults.failParameters = true ∧
      s.run? (List.replicate 5 (.task .executor)) = some u ∧ u.executor.stage = .idle ∧
      s.service.devices.map (·.focusMode) = [some .continuousPicture] ∧
      u.service.devices.map (·.focusMode) = [some .auto] := by
  have checked : ((ofCameras {} Simulator.dual 64 .back).run? tappedRefusing).any fun s =>
      (s.executor.stage = .idle ∧ s.state = .opened ∧ s.queue = [.applyFocus] ∧
        s.preview.isSome = true ∧ s.tap.isSome = true ∧
        s.service.faults.failParameters = true) ∧
      s.service.devices.map (·.focusMode) = [some .continuousPicture] ∧
      (s.run? (List.replicate 5 (.task .executor))).any fun u =>
        u.executor.stage = .idle ∧ u.service.devices.map (·.focusMode) = [some .auto] := by
    decide +kernel
  obtain ⟨s, run, facts⟩ := Option.any_eq_true _ _ |>.1 checked
  obtain ⟨⟨idle, opened, queue, shown, waits, refuses⟩, mode, goes⟩ := of_decide_eq_true facts
  obtain ⟨u, later, facts'⟩ := Option.any_eq_true _ _ |>.1 goes
  obtain ⟨ended, mode'⟩ := of_decide_eq_true facts'
  exact ⟨s, u, run, idle, opened, queue, shown, waits, refuses, later, ended, mode, mode'⟩

end CameraSystem

end Viewfinder
