import Viewfinder.Proofs.Secured

/-!
# The preview runs

Between two commands the preview of the open camera runs: every routine that stops it starts it
again, whatever is refused on the way. And a ticket that waits on a running preview has a frame that
is due, so that it does not wait for ever.
-/

namespace Viewfinder

/-- Whether the preview of an open device runs after a call. -/
def DeviceCall.previews (running : Bool) : DeviceCall → Bool
  | .startPreview => true
  | .stopPreview | .release => false
  | _ => running

/-- Steps that leave the preview running, also where a refusal or a crash cuts them short. -/
def EndsRunning (steps : List NativeStep) (running : Bool) : Prop :=
  Aims (fun c running => c.previews running) (· = true) steps running

/-- The next call brings nothing about that leaves the preview stopped. -/
theorem EndsRunning.perform {r : Routine} {step : NativeStep} {rest : List NativeStep}
    {service : Simulator Ticket} {running : Bool} (h : EndsRunning r.steps running)
    (holds : service.Holds (some r.device)) (steps : r.steps = step :: rest) :
    EndsRunning (r.perform service).1.steps (step.call.previews running) :=
  Aims.perform h holds steps

namespace Routine

theorem configure_endsRunning (device : Nat) (capabilities : Capabilities) (o : Orientation)
    (running : Bool) : EndsRunning (configure device capabilities o).steps running := by
  cases mode : capabilities.continuousMode? <;>
    simp [configure, mode, EndsRunning, Aims, DeviceCall.previews, DeviceCall.sure]

theorem resize_endsRunning (device : Nat) (current size : Size) :
    EndsRunning (resize device current size).steps true := by
  by_cases same : current = size <;> simp [resize, same, EndsRunning, Aims, DeviceCall.previews]

theorem turn_endsRunning (device : Nat) (displayChanged outputChanged : Bool) (o : Orientation) :
    EndsRunning (turn device displayChanged outputChanged o).steps true := by
  cases displayChanged <;> cases outputChanged <;> simp [turn, EndsRunning, Aims, DeviceCall.previews]

theorem focus_endsRunning (device : Nat) (capabilities : Capabilities) (request : FocusRequest) :
    EndsRunning (focus device capabilities request).steps true := by
  cases areas : capabilities.hasFocusAreas <;> cases auto : capabilities.supports .auto <;>
    simp [focus, areas, auto, EndsRunning, Aims, DeviceCall.previews]

end Routine

namespace SimulatedDevice

variable {τ : Type}

theorem previewing_call {d : SimulatedDevice τ} (open_ : d.released = false)
    (faults : SimulatorFaults) (c : DeviceCall) :
    (d.call faults c).2.previewing = c.previews d.previewing := by
  cases c <;> simp only [call, open_, DeviceCall.previews] <;> repeat' (first | rfl | split)

/-- A ticket waits on an open device only, and a frame is due for it as long as the preview runs. -/
def Serves (d : SimulatedDevice τ) : Prop :=
  d.ticket.isSome = true → d.released = false ∧ (d.previewing = true → 0 < d.due)

theorem serves_ofSpec (spec : CameraSpec) : (ofSpec spec : SimulatedDevice τ).Serves := by
  simp [Serves, ofSpec]

theorem Serves.call {d : SimulatedDevice τ} (h : d.Serves) (faults : SimulatorFaults)
    (c : DeviceCall) : (d.call faults c).2.Serves := by
  cases c with
  | startPreview =>
    simp only [SimulatedDevice.call]
    split
    · exact h
    · intro waits
      obtain ⟨open_, -⟩ := h waits
      have waits : d.ticket.isSome = true := waits
      exact ⟨open_, fun _ => by simp [waits]⟩
  | stopPreview =>
    simp only [SimulatedDevice.call]
    split
    · exact h
    · exact fun waits => ⟨(h waits).1, by simp⟩
  | release =>
    simp only [SimulatedDevice.call]
    split
    · exact h
    · exact fun waits => absurd waits (by simp)
  | _ =>
    simp only [SimulatedDevice.call]
    repeat' (first | exact h | split)

theorem serves_requestFrame {d : SimulatedDevice τ} (open_ : d.released = false) (ticket : τ) :
    (d.requestFrame ticket).2.Serves := by
  intro _
  simp only [SimulatedDevice.requestFrame, open_]
  exact ⟨rfl, fun running => by simp_all⟩

/-- The ticket that is left after a frame waits for a preview that does not run. -/
theorem Serves.fired {d : SimulatedDevice τ} (h : d.Serves) : d.fired.Serves := by
  intro waits
  simp only [SimulatedDevice.fired] at waits
  split at waits
  · next idle =>
    obtain ⟨open_, -⟩ := h waits
    have stopped : d.previewing = false := by simpa [open_] using idle
    exact ⟨open_, fun running => by cases stopped.symm.trans running⟩
  · cases waits

end SimulatedDevice

namespace Simulator

variable {τ : Type} {s : Simulator τ}

/-- Every ticket that waits is served. -/
def Serves (s : Simulator τ) : Prop := ∀ d ∈ s.devices, d.Serves

theorem Serves.setDevice (h : s.Serves) {i : Nat} {d : SimulatedDevice τ} (served : d.Serves) :
    (s.setDevice i d).Serves := by
  intro e mem
  rcases List.mem_or_eq_of_mem_set mem with mem | rfl
  · exact h e mem
  · exact served

theorem Serves.call (h : s.Serves) (i : Nat) (c : DeviceCall) : (s.call i c).2.Serves := by
  cases get : s.devices[i]? with
  | none => simpa [Simulator.call, get] using h
  | some d =>
    have set := h.setDevice (i := i) ((h d (List.mem_of_getElem? get)).call s.faults c)
    simp only [Simulator.call, get]
    split <;> exact set

theorem Serves.requestFrame (h : s.Serves) (i : Nat) (ticket : τ) :
    (s.requestFrame i ticket).2.Serves := by
  cases get : s.devices[i]? with
  | none => simpa [Simulator.requestFrame, get] using h
  | some d =>
    simp only [Simulator.requestFrame, get]
    refine h.setDevice ?_
    cases released : d.released with
    | false => exact d.serves_requestFrame released ticket
    | true => simpa [SimulatedDevice.requestFrame, released] using h d (List.mem_of_getElem? get)

theorem Serves.fire (h : s.Serves) (i : Nat) : (s.fire i).2.Serves := by
  cases get : s.devices[i]? with
  | none => simpa [Simulator.fire, get] using h
  | some d =>
    have kept := h.setDevice (i := i) (h d (List.mem_of_getElem? get)).fired
    intro e mem
    rw [(fire_eq get).2] at mem
    exact kept e mem

/-- A ticket is handed back from a device whose preview runs and on which a frame was due. -/
theorem Serves.handed (h : s.Serves) {i : Nat} {ticket : τ} {frame : Frame}
    (handed : (s.fire i).1 = some (ticket, frame)) :
    ∃ d, s.devices[i]? = some d ∧ d.ticket = some ticket ∧ d.released = false ∧
      d.previewing = true ∧ 0 < d.due ∧ frame = Simulator.frame s.faults s.frames d.preview := by
  cases get : s.devices[i]? with
  | none => simp [Simulator.fire, get] at handed
  | some d =>
    obtain ⟨runs, waits, eq⟩ := handed_of_fire get handed
    obtain ⟨open_, due⟩ := h d (List.mem_of_getElem? get) (by simp [waits])
    have runs : d.previewing = true := by simpa [open_] using runs
    exact ⟨d, rfl, waits, open_, runs, due runs, eq⟩

theorem Serves.acquire (h : s.Serves) (facing : Facing) : (s.acquire facing).2.Serves := by
  unfold Simulator.acquire
  repeat' (first | exact h | split)
  simpa [Serves, or_imp, forall_and] using And.intro h (SimulatedDevice.serves_ofSpec _)

/-- Whether the preview runs meets a condition on every device that is open. -/
def Shows (s : Simulator τ) (condition : Bool → Prop) : Prop :=
  ∀ d ∈ s.devices, d.released = false → condition d.previewing

variable {condition after : Bool → Prop}

theorem Holds.shows (h : s.Holds none) : s.Shows condition := by
  intro d mem unreleased
  obtain ⟨i, get⟩ := List.getElem?_of_mem mem
  exact absurd ((h.released i d get).1 unreleased) (by simp)

theorem Shows.imp (h : s.Shows condition) (imp : ∀ running, condition running → after running) :
    s.Shows after :=
  fun d mem unreleased => imp _ (h d mem unreleased)

theorem Shows.setDevice (h : s.Shows condition) {i : Nat} {d e : SimulatedDevice τ}
    (get : s.devices[i]? = some d) (released : e.released = d.released)
    (previewing : e.previewing = d.previewing) : (s.setDevice i e).Shows condition := by
  intro f mem unreleased
  rcases List.mem_or_eq_of_mem_set mem with mem | rfl
  · exact h f mem unreleased
  · rw [previewing]
    exact h d (List.mem_of_getElem? get) (released ▸ unreleased)

theorem Shows.requestFrame (h : s.Shows condition) (i : Nat) (ticket : τ) :
    (s.requestFrame i ticket).2.Shows condition := by
  cases get : s.devices[i]? with
  | none => simpa [Simulator.requestFrame, get] using h
  | some d =>
    simp only [Simulator.requestFrame, get]
    refine h.setDevice get ?_ ?_ <;> unfold SimulatedDevice.requestFrame <;> split <;> rfl

theorem Shows.fire (h : s.Shows condition) (i : Nat) : (s.fire i).2.Shows condition := by
  cases get : s.devices[i]? with
  | none => simpa [Simulator.fire, get] using h
  | some d =>
    have kept := h.setDevice (e := d.fired) get rfl rfl
    intro e mem
    rw [(fire_eq get).2] at mem
    exact kept e mem

theorem Shows.call (h : s.Shows condition) {i : Nat} (holds : s.Holds (some i)) {c : DeviceCall}
    (imp : ∀ running, condition running → after (c.previews running)) :
    (s.call i c).2.Shows after := by
  obtain ⟨d, get, unreleased, -, devices, -⟩ := holds.call c
  intro e mem open_
  rw [devices] at mem
  obtain ⟨j, get'⟩ := List.getElem?_of_mem mem
  rw [List.getElem?_set] at get'
  split at get'
  · split at get'
    · cases get'
      rw [SimulatedDevice.previewing_call unreleased]
      exact imp _ (h d (List.mem_of_getElem? get) unreleased)
    · simp at get'
  · next other => exact absurd ((holds.released j e get').1 open_) (by simpa using other)

end Simulator

/-- The preview runs, or will when the routine of the stage is through. -/
def Stage.Runs : Stage → Bool → Prop
  | .idle, running | .crashed, running => running = true
  | .native r (.install ..), running | .native r (.resize ..), running
  | .native r (.turn ..), running | .native r (.focus ..), running => EndsRunning r.steps running
  | _, _ => True

namespace CameraSystem

variable {s t : CameraSystem (Simulator Ticket)} {held : Option Nat}

/-- The preview of a device that is open runs, or will, and no ticket is left unserved. -/
structure Attended (s : CameraSystem (Simulator Ticket)) : Prop where
  shows : s.service.Shows s.executor.stage.Runs
  serves : s.service.Serves

theorem runs_execute (idle : s.executor.stage = .idle) (c : Command) :
    (s.execute c).executor.stage.Runs true := by
  have still : s.executor.stage.Runs true := by rw [idle]; rfl
  cases c with
  | openCamera =>
    simp only [execute]
    split
    · exact still
    · trivial
  | closeCamera =>
    simp only [execute, beginClose]
    split
    · rfl
    · trivial
  | configurePreview session =>
    simp only [execute, configurePreview, announce]
    repeat' (first | exact still | exact Routine.resize_endsRunning _ _ _ | split)
  | turnDevice turn =>
    simp only [execute, refreshOrientation]
    repeat' (first | exact still | exact Routine.turn_endsRunning _ _ _ _ | split)
  | tiltDevice angle =>
    simp only [execute, refreshOrientation]
    repeat' (first | exact still | exact Routine.turn_endsRunning _ _ _ _ | split)
  | applyFocus =>
    show s.applyFocus.executor.stage.Runs true
    unfold CameraSystem.applyFocus
    split
    · exact still
    · dsimp only
      split
      · next camera preview _ _ =>
        split
        · rfl
        · exact still
        · next request _ =>
          exact Routine.focus_endsRunning camera.device camera.capabilities request
      · exact still
  | barrier => exact still

theorem Attended.call (h : s.Attended) (secured : s.Secured held) {routine : Routine}
    {next : Continuation} {step : NativeStep} {rest : List NativeStep}
    (stage : s.executor.stage = .native routine next) (steps : routine.steps = step :: rest) :
    (routine.perform s.service).2.Shows
      (Stage.Runs (.native (routine.perform s.service).1 next)) := by
  have holds := secured.holds
  rw [secured.of_native stage steps] at holds
  have shows := h.shows
  rw [stage] at shows
  rw [service_perform steps s.service]
  refine shows.call holds fun running runs => ?_
  have ends : EndsRunning routine.steps running →
      EndsRunning (routine.perform s.service).1.steps (step.call.previews running) :=
    fun ends => ends.perform holds steps
  cases next with
  | install | resize | turn | focus => exact ends runs
  | abandon | forget => trivial

/-- A routine on the open camera that has ended leaves the preview running. -/
theorem Attended.ended (h : s.Attended) {routine : Routine} {next : Continuation}
    (stage : s.executor.stage = .native routine next) (steps : routine.steps = [])
    (runs : ∀ running, (Stage.native routine next).Runs running = EndsRunning routine.steps running)
    (service : t.service = s.service) (idle : t.executor.stage = .idle) :
    t.service.Shows t.executor.stage.Runs := by
  have shows := h.shows
  rw [service, idle]
  rw [stage] at shows
  refine shows.imp fun running ends => ?_
  rwa [runs, steps] at ends

theorem Attended.of_turn (h : s.Attended) (secured : s.Secured held) (turn : Turn s t) :
    t.service.Shows t.executor.stage.Runs := by
  have shows := h.shows
  have holds := secured.holds
  cases turn with
  | take c rest idle queue =>
    rw [service_execute]
    rw [idle] at shows
    refine shows.imp fun running runs => ?_
    cases runs
    exact runs_execute (s := { s with queue := rest }) idle c
  | finish idle queue unsent =>
    simp only [beginClose]
    split <;> exact fun _ _ _ => trivial
  | missing facing request stage absent =>
    obtain ⟨-, -, rfl⟩ := secured.of_opening stage
    simp only [failOpen, withdraw]
    split <;> exact holds.shows
  | refused facing request stage present =>
    obtain ⟨-, -, rfl⟩ := secured.of_opening stage
    simp only [failOpen, withdraw]
    split <;> exact (holds.setFaults _).shows
  | acquired facing request spec capabilities o stage present =>
    exact fun d _ _ => Routine.configure_endsRunning _ _ _ _
  | called routine next step rest stage steps => exact h.call secured stage steps
  | installed routine facing request camera o stage steps =>
    exact h.ended stage steps (fun _ => rfl) rfl rfl
  | forgotten routine facing last stage steps =>
    obtain rfl := secured.of_forgotten stage steps
    exact holds.shows
  | worked routine next works stage steps =>
    have returned := s.resume_returned routine works
    refine h.ended stage steps (fun _ => ?_) returned.service returned.idle
    cases next with
    | install | abandon | forget => cases works
    | resize | turn | focus => rfl

theorem serves_of_touched (h : s.service.Serves) {service : Simulator Ticket}
    (touched : Touched s service) : service.Serves := by
  cases touched with
  | none => exact h
  | acquire facing => exact h.acquire facing
  | call routine next step => exact h.call routine.device step.call
  | requestFrame camera ticket => exact h.requestFrame camera.device ticket
  | fire device => exact h.fire device
  | setFaults faults => exact h

theorem Undisturbed.shows (same : Undisturbed s t)
    (shows : t.service.Shows s.executor.stage.Runs) : t.service.Shows t.executor.stage.Runs := by
  rw [same.executor]
  exact shows

theorem Attended.step (h : s.Attended) (secured : s.Secured held) {t : Task}
    (ready : s.ready t = true) : (s.step t).service.Shows (s.step t).executor.stage.Runs := by
  by_cases own : t = .executor
  · subst own
    exact h.of_turn secured (secured.turn ready)
  refine (s.step_undisturbed own).shows ?_
  cases t with
  | executor => exact absurd rfl own
  | preparation session =>
    rw [CameraSystem.step, service_prepare]
    exact h.shows
  | job id =>
    simp only [CameraSystem.step]
    cases s.job? id with
    | none => exact h.shows
    | some j =>
      rcases s.service_jobStep j with same | ⟨camera, -, -, eq⟩
      · rw [Option.elim, same]
        exact h.shows
      · rw [Option.elim, eq]
        exact h.shows.requestFrame camera.device j.ticket
  | bridge feed =>
    simp only [CameraSystem.step]
    cases s.bridge? feed <;> exact h.shows
  | delivery device =>
    rw [CameraSystem.step, service_send]
    exact h.shows.fire device
  | arrival job =>
    rw [CameraSystem.step, service_arrive]
    exact h.shows

theorem Attended.move (h : s.Attended) (secured : s.Secured held) {m : Move}
    (enabled : s.enabled m = true) : (s.move m).Attended := by
  refine ⟨?_, serves_of_touched h.serves (.move s m)⟩
  cases m with
  | request r =>
    refine (s.request_undisturbed r).shows ?_
    rw [service_request]
    exact h.shows
  | setFaults faults => exact h.shows
  | task t => exact h.step secured enabled

theorem attended_ofCameras (settings : Settings) (cameras : List CameraSpec) (capacity : Nat)
    (facing : Facing) : (ofCameras settings cameras capacity facing).Attended :=
  ⟨(Simulator.holds_ofCameras cameras).shows, fun _ mem => absurd mem List.not_mem_nil⟩

end CameraSystem

end Viewfinder
