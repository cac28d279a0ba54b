import Mathlib.Algebra.GroupWithZero.Nat
import Viewfinder.Proofs.Handover

/-!
# What is left to do

The tasks of a system come to rest: of what is left to do every step takes more than it adds. An
`effort` is counted in steps. A native call counts twice, as a frame may become due by it, and so
does an event, which a subscriber and a listener may have to read; so events that were published and
frames that are due are weighed together with what is left. All of that is worth more than a frame
on its way, as a frame that is due is sent first and arrives later (`nearer_step`).
-/

namespace Viewfinder

/-- What is left once the native calls of a routine are made. An install publishes two events and
has the preview configured. -/
def Continuation.effort : Continuation → Nat
  | .install .. => 18
  | .abandon .. => 5
  | .forget .. | .resize .. | .turn _ | .focus _ => 3

def Stage.effort : Stage → Nat
  | .idle | .stopped | .crashed => 0
  | .opening .. => 27
  | .native routine next => 2 * routine.steps.length + next.effort

def Command.effort : Command → Nat
  | .openCamera .. => 30
  | .closeCamera => 10
  | .configurePreview _ | .turnDevice _ | .tiltDevice _ | .applyFocus => 12
  | .barrier => 1

def JobStage.effort : JobStage → Nat
  | .waiting => 7
  | .ready => 6
  | .requested | .received _ => 4
  | .processing _ => 3

/-- What a request adds at most. -/
def Request.effort : Request → Nat
  | .start _ => 30
  | .pause => 10
  | .swap => 40
  | .setViewport _ | .turnDevice _ | .tiltDevice _ | .focusOn _ => 12
  | .takePicture _ => 7
  | .barrier => 1
  | .setListener | .clearListener | .subscribe | .drop => 0

namespace Routine

theorem length_configure (device : Nat) (capabilities : Capabilities) (o : Orientation) :
    (configure device capabilities o).steps.length ≤ 4 := by
  cases mode : capabilities.continuousMode? <;> simp [configure, mode]

theorem length_resize (device : Nat) (current size : Size) :
    (resize device current size).steps.length ≤ 3 := by
  by_cases same : current = size <;> simp [resize, same]

theorem length_turn (device : Nat) (displayChanged outputChanged : Bool) (o : Orientation) :
    (turn device displayChanged outputChanged o).steps.length ≤ 4 := by
  cases displayChanged <;> cases outputChanged <;> simp [turn]

theorem length_focus (device : Nat) (capabilities : Capabilities) (request : FocusRequest) :
    (focus device capabilities request).steps.length ≤ 4 := by
  cases areas : capabilities.hasFocusAreas <;> cases auto : capabilities.supports .auto <;>
    simp [focus, areas, auto]

/-- A call takes a step off, and perhaps all the others. -/
theorem length_perform {σ : Type} [CameraService σ] {r : Routine} {step : NativeStep}
    {rest : List NativeStep} (steps : r.steps = step :: rest) (service : σ) :
    (r.perform service).1.steps.length ≤ rest.length := by
  simp only [perform, steps]
  repeat' (first | exact Nat.le_refl _ | exact Nat.zero_le _ | split)

end Routine

namespace Simulator

variable {τ : Type} {s : Simulator τ}

/-- The frames that are due, on all devices that were ever opened. -/
def framesDue (s : Simulator τ) : Nat := (s.devices.map (·.due)).sum

theorem framesDue_opened (spec : CameraSpec) : (s.opened spec).framesDue = s.framesDue := by
  simp [framesDue, opened, SimulatedDevice.ofSpec]

theorem framesDue_setDevice {i : Nat} {d e : SimulatedDevice τ} (get : s.devices[i]? = some d) :
    (s.setDevice i e).framesDue + d.due = s.framesDue + e.due := by
  obtain ⟨lt, at_⟩ := List.getElem?_eq_some_iff.1 get
  obtain ⟨before, after, whole, -, set⟩ := @List.exists_of_set _ _ e _ lt
  rw [framesDue, setDevice, set, framesDue, whole, at_]
  simp only [List.map_append, List.map_cons, List.sum_append, List.sum_cons]
  omega

/-- A call makes one frame due at most, and takes none back. -/
theorem framesDue_call (i : Nat) (c : DeviceCall) :
    s.framesDue ≤ (s.call i c).2.framesDue ∧ (s.call i c).2.framesDue ≤ s.framesDue + 1 := by
  cases get : s.devices[i]? with
  | none => simp [call, get]
  | some d =>
    have due : d.due ≤ (d.call s.faults c).2.due ∧ (d.call s.faults c).2.due ≤ d.due + 1 := by
      unfold SimulatedDevice.call
      repeat' (first
        | exact ⟨Nat.le_refl _, Nat.le_succ _⟩ | exact ⟨Nat.le_succ _, Nat.le_refl _⟩ | split)
    have set := framesDue_setDevice (e := (d.call s.faults c).2) get
    have same : (s.call i c).2.framesDue = (s.setDevice i (d.call s.faults c).2).framesDue := by
      simp only [call, get]
      split <;> rfl
    omega

theorem framesDue_requestFrame (i : Nat) (ticket : τ) :
    s.framesDue ≤ (s.requestFrame i ticket).2.framesDue ∧
      (s.requestFrame i ticket).2.framesDue ≤ s.framesDue + 1 := by
  cases get : s.devices[i]? with
  | none => simp [requestFrame, get]
  | some d =>
    have due : d.due ≤ (d.requestFrame ticket).2.due ∧
        (d.requestFrame ticket).2.due ≤ d.due + 1 := by
      unfold SimulatedDevice.requestFrame
      repeat' (first
        | exact ⟨Nat.le_refl _, Nat.le_succ _⟩ | exact ⟨Nat.le_succ _, Nat.le_refl _⟩ | split)
    have set := framesDue_setDevice (e := (d.requestFrame ticket).2) get
    simp only [requestFrame, get]
    omega

/-- A frame that is due is due no more once it was fired. -/
theorem framesDue_fire {i : Nat} (due : i ∈ s.dueDevices) :
    (s.fire i).2.framesDue + 1 = s.framesDue := by
  obtain ⟨-, some_⟩ := List.mem_filter.1 due
  obtain ⟨d, get, positive⟩ := Option.any_eq_true _ _ |>.1 some_
  have positive : 0 < d.due := of_decide_eq_true positive
  have set (e : SimulatedDevice τ) (same : e.due = d.due - 1) :
      (s.setDevice i e).framesDue + 1 = s.framesDue := by
    have := framesDue_setDevice (e := e) get
    omega
  rw [framesDue, (fire_eq get).2]
  exact set d.fired rfl

end Simulator

namespace CameraSystem

section

variable {σ : Type}

/-- The steps that can still come of what the executor is about, of the commands that wait, of
preparations and of jobs. -/
def effort (s : CameraSystem σ) : Nat :=
  s.executor.stage.effort + (s.queue.map Command.effort).sum + 13 * s.preparing.length +
    (s.jobs.map (·.stage.effort)).sum

theorem effort_submit (s : CameraSystem σ) (c : Command) :
    (s.submit c).effort = s.effort + c.effort := by
  simp only [effort, submit, List.map_append, List.sum_append, List.map_cons, List.map_nil,
    List.sum_singleton]
  omega

theorem effort_request [CameraService σ] (s : CameraSystem σ) (r : Request) :
    (s.request r).effort ≤ s.effort + r.effort := by
  have none : s.effort ≤ s.effort + r.effort := Nat.le_add_right _ _
  have one (c : Command) (u : CameraSystem σ) (same : u.effort = s.effort)
      (le : c.effort ≤ r.effort) : (u.submit c).effort ≤ s.effort + r.effort := by
    rw [effort_submit, same]
    exact Nat.add_le_add_left le _
  cases r with
  | swap =>
    simp only [request, swap, openRequest]
    split
    · exact none
    · split
      · rw [effort_submit]
        show (s.submit .closeCamera).effort + 30 ≤ _
        rw [effort_submit]
        exact Nat.le_refl _
      · exact one _ _ rfl (Nat.le_add_left 30 10)
  | takePicture visible =>
    simp only [request, takePicture]
    split
    · simp only [effort, List.map_append, List.sum_append, List.map_cons, List.map_nil,
        List.sum_singleton]
      show _ + (_ + 7) ≤ _ + 7
      omega
    · exact none
  | barrier => exact one _ s rfl (Nat.le_refl _)
  | turnDevice turn => exact one _ s rfl (Nat.le_refl _)
  | tiltDevice angle =>
    simp only [request, tiltDevice]
    split
    · exact none
    · exact one _ s rfl (Nat.le_refl _)
  | start facing =>
    simp only [request, start, openRequest]
    split
    · exact none
    · exact one _ _ rfl (Nat.le_refl _)
  | pause =>
    simp only [request, pause]
    split
    · exact one _ _ rfl (Nat.le_refl _)
    · exact none
  | setViewport viewport =>
    simp only [request, setViewport]
    repeat' split
    · exact none
    · exact one _ _ rfl (Nat.le_refl _)
    · exact none
  | focusOn tap =>
    simp only [request, focusOn]
    repeat' split
    · exact none
    · exact none
    · exact one _ _ rfl (Nat.le_refl _)
    · exact none
  | setListener | clearListener | subscribe | drop =>
    simp only [request, setListener, clearListener, drop]
    repeat' (first | exact none | split)

/-- What was published weighs as much as what is still to be published. -/
def load (s : CameraSystem σ) : Nat := s.effort + 2 * s.published.length

theorem length_publish (s : CameraSystem σ) (e : Event) :
    (s.publish e).published.length = s.published.length + 1 := by
  simp

theorem effort_refreshOrientation (s : CameraSystem σ) (idle : s.executor.stage = .idle) :
    s.refreshOrientation.executor.stage.effort ≤ 11 ∧
      s.refreshOrientation.published = s.published := by
  have still : s.executor.stage.effort = 0 := by rw [idle]; rfl
  rcases s.refreshOrientation_cases with ⟨-, eq⟩ | ⟨camera, -, ⟨-, eq⟩ | ⟨-, eq⟩⟩
  all_goals
    rw [eq]
    refine ⟨?_, rfl⟩
  · omega
  · show s.executor.stage.effort ≤ 11
    omega
  · have short := Routine.length_turn camera.device
      (s.orientation.map Orientation.display !=
        some (s.resolveOrientation camera.sensor).display)
      (s.orientation.map Orientation.output != some (s.resolveOrientation camera.sensor).output)
      (s.resolveOrientation camera.sensor)
    show 2 * (Routine.turn _ _ _ _).steps.length + 3 ≤ 11
    omega

theorem length_resume (s : CameraSystem σ) (routine : Routine) {next : Continuation}
    (works : next.works = true) :
    (s.resume routine next).published.length ≤ s.published.length + 1 := by
  have told (t : CameraSystem σ) (e : Event) :
      (t.publish e).published.length ≤ t.published.length + 1 := Nat.le_of_eq (t.length_publish e)
  cases next with
  | install | abandon | forget => cases works
  | resize camera size =>
    simp only [resume, announce]
    repeat' (first | exact Nat.le_succ _ | exact told _ _ | split)
  | turn o => exact told s _
  | focus request =>
    simp only [resume]
    split
    · exact told s _
    · exact Nat.le_succ _

variable [CameraService σ]

/-- A command costs more than the routine that it starts and the event that it publishes. -/
theorem effort_execute (s : CameraSystem σ) (idle : s.executor.stage = .idle) (c : Command) :
    (s.execute c).executor.stage.effort + 2 * (s.execute c).published.length <
      c.effort + 2 * s.published.length := by
  have still : s.executor.stage.effort = 0 := by rw [idle]; rfl
  cases c with
  | openCamera facing request =>
    simp only [execute, Command.effort]
    split
    · omega
    · have told := length_publish { s with state := .opening }
        (.stateChanged s.state .opening facing)
      show 27 + 2 * (publish _ _).published.length < 30 + 2 * s.published.length
      rw [told]
      show 27 + 2 * (s.published.length + 1) < _
      omega
  | closeCamera =>
    simp only [execute, beginClose, Command.effort]
    split
    · show 0 + 2 * s.published.length < _
      omega
    · next camera _ =>
      have told := length_publish { s with slot := none, state := .closing }
        (.stateChanged s.state .closing camera.sensor.facing)
      show 2 * 2 + 3 + 2 * (publish _ _).published.length < 10 + 2 * s.published.length
      rw [told]
      show 2 * 2 + 3 + 2 * (s.published.length + 1) < _
      omega
  | configurePreview session =>
    rw [execute, Command.effort]
    rcases s.configurePreview_cases session with
      ⟨-, eq⟩ | ⟨camera, -, -, ⟨-, eq⟩ | ⟨size, -, ⟨-, eq⟩ | ⟨-, eq⟩⟩⟩
    all_goals rw [eq]
    · omega
    · omega
    · unfold announce
      split
      · omega
      · rw [length_publish]
        show s.executor.stage.effort + 2 * (s.published.length + 1) < _
        omega
    · have short := Routine.length_resize camera.device
        (CameraService.previewSize s.service camera.device) size
      show 2 * (Routine.resize _ _ _).steps.length + 3 + 2 * s.published.length < _
      omega
  | turnDevice turn =>
    obtain ⟨effort, told⟩ := effort_refreshOrientation
      { s with executor := { s.executor with turn := turn } } idle
    rw [execute, Command.effort, told]
    show _ + 2 * s.published.length < _
    omega
  | tiltDevice angle =>
    obtain ⟨effort, told⟩ := effort_refreshOrientation
      { s with executor := { s.executor with angle := some angle } } idle
    rw [execute, Command.effort, told]
    show _ + 2 * s.published.length < _
    omega
  | applyFocus =>
    rw [execute, Command.effort]
    obtain ⟨tap, eq | ⟨camera, -, eq | ⟨request, eq⟩⟩⟩ := s.applyFocus_cases
    all_goals rw [eq]
    · show s.executor.stage.effort + 2 * s.published.length < _
      omega
    · show 0 + 2 * s.published.length < _
      omega
    · have short := Routine.length_focus camera.device camera.capabilities request
      show 2 * (Routine.focus _ _ _).steps.length + 3 + 2 * s.published.length < _
      omega
  | barrier =>
    show s.executor.stage.effort + 2 * s.published.length < 1 + 2 * s.published.length
    omega

end

variable {s t : CameraSystem (Simulator Ticket)} {held : Option Nat}

/-- The steps that the frames on the way to a job will take, and twice those that are due. -/
def framesAhead (s : CameraSystem (Simulator Ticket)) : Nat :=
  2 * s.service.framesDue + s.inFlight.length

/-- With the frames that are ahead, what is left is less from one system to the next, and no less
only by frames that were sent or have come. -/
structure Nearer (s t : CameraSystem (Simulator Ticket)) : Prop where
  less : 2 * t.load + t.framesAhead < 2 * s.load + s.framesAhead
  load : t.load ≤ s.load

theorem Nearer.of_due (less : t.load + t.service.framesDue < s.load + s.service.framesDue)
    (due : s.service.framesDue ≤ t.service.framesDue) (inFlight : t.inFlight = s.inFlight) :
    Nearer s t :=
  ⟨by rw [framesAhead, framesAhead, inFlight]; omega, by omega⟩

/-- The executor gets on with its stage while the others wait. -/
theorem Nearer.of_stage (queue : t.queue = s.queue) (preparing : t.preparing = s.preparing)
    (jobs : t.jobs = s.jobs) (inFlight : t.inFlight = s.inFlight)
    (due : s.service.framesDue ≤ t.service.framesDue)
    (less : t.executor.stage.effort + 2 * t.published.length + t.service.framesDue <
      s.executor.stage.effort + 2 * s.published.length + s.service.framesDue) : Nearer s t := by
  refine .of_due ?_ due inFlight
  simp only [CameraSystem.load, effort, queue, preparing, jobs]
  omega

theorem Nearer.take {c : Command} {rest : List Command} (idle : s.executor.stage = .idle)
    (queue : s.queue = c :: rest) : Nearer s ({ s with queue := rest }.execute c) := by
  have still : s.executor.stage.effort = 0 := by rw [idle]; rfl
  have less : _ < c.effort + 2 * s.published.length :=
    effort_execute { s with queue := rest } idle c
  have errands := execute_sameErrands { s with queue := rest } c
  have kept := execute_sameCaptures { s with queue := rest } c
  refine .of_due ?_ (Nat.le_of_eq (congrArg Simulator.framesDue errands.service.symm))
    kept.inFlight
  simp only [CameraSystem.load, effort, errands.queue, errands.preparing, errands.service,
    kept.jobs, queue, still, List.map_cons, List.sum_cons]
  omega

theorem Nearer.failOpen {facing : Facing} {request : Nat} (service : Simulator Ticket)
    (stage : s.executor.stage = .opening facing request)
    (due : service.framesDue = s.service.framesDue) (e : CameraError) :
    Nearer s ({ s with service := service }.failOpen facing request e) := by
  have told := published_failOpen { s with service := service } facing request e
  have same : ({ s with service := service } : CameraSystem _).published = s.published := rfl
  rw [CameraSystem.failOpen, withdraw_eq] at told ⊢
  refine .of_stage rfl rfl rfl rfl (Nat.le_of_eq due.symm) ?_
  rw [told, stage]
  show 0 + 2 * (List.length (s.published ++ [_, _])) + service.framesDue <
    27 + 2 * s.published.length + s.service.framesDue
  simp only [List.length_append, List.length_cons, List.length_nil]
  omega

theorem Nearer.of_turn (turn : Turn s t) (senders : s.hasSenders = true) : Nearer s t := by
  cases turn with
  | take c rest idle queue => exact .take idle queue
  | finish idle queue unsent => cases senders.symm.trans unsent
  | missing facing request stage absent => exact .failOpen s.service stage rfl _
  | refused facing request stage present =>
    exact .failOpen s.service.failedOnce stage rfl _
  | acquired facing request spec capabilities o stage present =>
    have due := Simulator.framesDue_opened (s := s.service) spec
    have short := Routine.length_configure s.service.devices.length capabilities o
    refine .of_stage rfl rfl rfl rfl (Nat.le_of_eq due.symm) ?_
    rw [stage]
    show 2 * (Routine.configure _ _ _).steps.length + 18 + 2 * s.published.length +
      (s.service.opened spec).framesDue < 27 + 2 * s.published.length + s.service.framesDue
    omega
  | called routine next step rest stage steps =>
    have due := Simulator.framesDue_call (s := s.service) routine.device step.call
    have made : (routine.perform s.service).2 = (s.service.call routine.device step.call).2 :=
      service_perform steps s.service
    have left := Routine.length_perform steps s.service
    rw [← made] at due
    refine .of_stage rfl rfl rfl rfl due.1 ?_
    rw [stage]
    show 2 * (routine.perform s.service).1.steps.length + next.effort + 2 * s.published.length +
      (routine.perform s.service).2.framesDue <
      2 * routine.steps.length + next.effort + 2 * s.published.length + s.service.framesDue
    rw [steps, List.length_cons]
    omega
  | installed routine facing request camera o stage steps =>
    refine .of_due ?_ (Nat.le_refl _) rfl
    have told : (s.install facing camera o).published.length = s.published.length + 2 := by
      rw [install, length_publish, enter, length_publish]
      rfl
    have effort : s.executor.stage.effort = 18 := by rw [stage, Stage.effort, steps]; rfl
    simp only [CameraSystem.load, CameraSystem.effort, told, effort]
    show 0 + (s.queue.map Command.effort).sum + 13 * (s.preparing ++ [camera.session]).length +
      (s.jobs.map (·.stage.effort)).sum + 2 * (s.published.length + 2) + s.service.framesDue < _
    rw [List.length_append, List.length_singleton]
    omega
  | forgotten routine facing last stage steps =>
    refine .of_stage rfl rfl rfl rfl (Nat.le_refl _) ?_
    have told : (s.forget facing last).published.length = s.published.length + 1 :=
      length_publish _ _
    have effort : s.executor.stage.effort = 3 := by rw [stage, Stage.effort, steps]; rfl
    have after : (s.forget facing last).executor.stage.effort = 0 := by cases last <;> rfl
    rw [told, effort, after]
    show _ + s.service.framesDue < _
    omega
  | worked routine next works stage steps =>
    have returned := s.resume_returned routine works
    have errands := s.resume_sameErrands routine works
    have kept := s.resume_sameCaptures routine next
    refine .of_stage errands.queue errands.preparing kept.jobs kept.inFlight
      (Nat.le_of_eq (congrArg Simulator.framesDue returned.service.symm)) ?_
    have told := s.length_resume routine works
    have effort : s.executor.stage.effort = 3 := by
      rw [stage, Stage.effort, steps]
      cases next with
      | install | abandon | forget => cases works
      | resize | turn | focus => rfl
    rw [returned.idle, effort, returned.service]
    show 0 + _ + _ < _
    omega

theorem Nearer.prepare {session : Nat} (prepares : session ∈ s.preparing) :
    Nearer s (s.prepare session) := by
  have fewer : (s.preparing.filter (· ≠ session)).length < s.preparing.length :=
    List.length_filter_lt_length_iff_exists.2 ⟨session, prepares, by simp⟩
  have dropped : Nearer s { s with preparing := s.preparing.filter (· ≠ session) } := by
    refine .of_due ?_ (Nat.le_refl _) rfl
    simp only [CameraSystem.load, effort, published]
    omega
  simp only [CameraSystem.prepare, submit]
  split
  · exact dropped
  · refine .of_due ?_ (Nat.le_refl _) rfl
    simp only [CameraSystem.load, effort, published, List.map_append, List.sum_append]
    simp only [List.map_cons, List.map_nil, List.sum_singleton, Command.effort]
    omega

/-- The job under way gets on, and what it publishes and makes due is less than what it spares. -/
theorem Nearer.of_job {j : Job} (left due told : Nat) (jobs : s.jobs = [j])
    (same : Undisturbed s t) (demand : SameDemand s t)
    (stages : (t.jobs.map (·.stage.effort)).sum = left) (inFlight : t.inFlight = s.inFlight)
    (frames : s.service.framesDue ≤ t.service.framesDue)
    (fresh : t.service.framesDue ≤ s.service.framesDue + due)
    (published : t.published.length = s.published.length + told)
    (less : left + due + 2 * told < j.stage.effort) : Nearer s t := by
  refine .of_due ?_ frames inFlight
  simp only [CameraSystem.load, effort, same.executor, demand.queue, demand.preparing, stages, jobs,
    List.map_cons, List.map_nil, List.sum_singleton, published]
  omega

theorem Nearer.jobStep (secured : s.Secured held) {j : Job} (jobs : s.jobs = [j])
    (ready : s.jobReady j = true) : Nearer s (s.jobStep j) := by
  have same := s.jobStep_undisturbed j
  have demand := s.jobStep_sameDemand j
  have due : s.service.framesDue ≤ s.service.framesDue + 0 := Nat.le_refl _
  have ended : ((s.endJob j.ticket.job).jobs.map (·.stage.effort)).sum = 0 := by
    simp [endJob, removeJob, jobs]
  have ends (positive : 0 < j.stage.effort) (eq : s.jobStep j = s.endJob j.ticket.job) :
      Nearer s (s.jobStep j) := by
    rw [eq] at same demand ⊢
    exact .of_job 0 0 0 jobs same demand ended rfl due due rfl positive
  cases stage : j.stage with
  | waiting =>
    by_cases gone : s.isOver j.ticket.session = true
    · exact ends (by rw [stage]; decide) (by simp [CameraSystem.jobStep, stage, gone])
    · have visible : s.viewport.isEmpty = false := by
        simpa [jobReady, stage, wakes, gone] using ready
      have eq : s.jobStep j = s.setJobStage j.ticket.job .ready := by
        simp only [CameraSystem.jobStep, stage, gone, visible, Bool.false_eq_true, if_false]
      rw [eq] at same demand ⊢
      refine .of_job 6 0 0 jobs same demand ?_ rfl due due rfl ?_
      · simp [setJobStage, jobs, JobStage.effort]
      · rw [stage]
        decide
  | ready =>
    have eq : s.jobStep j = s.requestFrame j.ticket := by
      simp only [CameraSystem.jobStep, stage]
    cases found : s.slot.filter (·.session = j.ticket.session) with
    | none =>
      refine ends (by rw [stage]; decide) (eq.trans ?_)
      simp only [requestFrame, found]
    | some camera =>
      obtain ⟨slot, session⟩ := Option.filter_eq_some_iff.1 found
      obtain ⟨frames, fresh⟩ := Simulator.framesDue_requestFrame (s := s.service) camera.device
        j.ticket
      rw [eq, secured.requestFrame_eq slot (of_decide_eq_true session)] at same demand ⊢
      refine .of_job 4 1 0 jobs same demand ?_ rfl frames fresh rfl ?_
      · simp [setJobStage, jobs, JobStage.effort]
      · rw [stage]
        decide
  | requested =>
    exact ends (by rw [stage]; decide) (by simp [CameraSystem.jobStep, stage, ready])
  | received shot =>
    have eq : s.jobStep j =
        { s with capture := .processing }.setJobStage j.ticket.job (.processing shot) := by
      simp only [CameraSystem.jobStep, stage]
    rw [eq] at same demand ⊢
    refine .of_job 3 0 0 jobs same demand ?_ rfl due due rfl ?_
    · simp [setJobStage, jobs, JobStage.effort]
    · rw [stage]
      show 3 < 4
      decide
  | processing shot =>
    cases made : shot.frame.still shot.rotation shot.crop s.settings.jpegQuality with
    | error e =>
      refine ends ?_ (by simp only [CameraSystem.jobStep, stage, made])
      rw [stage]
      show 0 < 3
      decide
    | ok still =>
      have eq : s.jobStep j = (s.endJob j.ticket.job).publish
          (.imageCaptured ⟨j.ticket.job, still, shot.rotation⟩) := by
        simp only [CameraSystem.jobStep, stage, made]
      rw [eq] at same demand ⊢
      refine .of_job 0 0 1 jobs same demand ended rfl due due (length_publish _ _) ?_
      rw [stage]
      show 0 + 0 + 2 < 3
      decide

/-- A frame that is sent is due no more, and is on its way at most. -/
theorem Nearer.send {device : Nat} (due : device ∈ s.service.dueDevices) :
    Nearer s (s.send device) := by
  have fewer : (CameraService.fire device s.service).2.framesDue + 1 = s.service.framesDue :=
    Simulator.framesDue_fire due
  have same := s.send_undisturbed device
  obtain ⟨demand, published⟩ := s.send_sameDemand device
  have load (jobs : (s.send device).jobs = s.jobs) : (s.send device).load = s.load := by
    simp only [CameraSystem.load, effort, same.executor, demand.queue, demand.preparing, jobs,
      published]
  rcases s.send_cases device with ⟨-, -, eq⟩ | ⟨ticket, frame, -, -, eq⟩
  all_goals
    have load := load (by rw [eq])
    refine ⟨?_, Nat.le_of_eq load⟩
    rw [load, framesAhead, framesAhead, eq]
  · show _ + (2 * (CameraService.fire device s.service).2.framesDue + s.inFlight.length) < _
    omega
  · show _ + (2 * (CameraService.fire device s.service).2.framesDue +
      (s.inFlight ++ [_]).length) < _
    rw [List.length_append, List.length_singleton]
    omega

/-- A frame that arrives is on its way no more, whether its job goes on with it or not. -/
theorem Nearer.arrive (sound : s.Sound) {job : Nat} {sent : SentFrame}
    (found : s.sent? job = some sent) : Nearer s (s.arrive job) := by
  have only := (sound.roster.sent sent (List.mem_of_find?_eq_some found)).1
  have fewer : (s.inFlight.filter (·.ticket.job ≠ job)).length < s.inFlight.length :=
    List.length_filter_lt_length_iff_exists.2
      ⟨sent, List.mem_of_find?_eq_some found, by simpa using List.find?_some found⟩
  have same := s.arrive_undisturbed job
  obtain ⟨demand, published⟩ := s.arrive_sameDemand job
  obtain ⟨jobs, inFlight, service⟩ : ((s.arrive job).jobs.map (·.stage.effort)).sum =
        (s.jobs.map (·.stage.effort)).sum ∧
      (s.arrive job).inFlight = s.inFlight.filter (·.ticket.job ≠ job) ∧
      (s.arrive job).service = s.service := by
    rcases s.arrive_cases found with ⟨-, -, eq⟩ | ⟨o, -, -, -, ⟨-, eq⟩ | ⟨crop, -, eq⟩⟩
    all_goals rw [eq]
    · exact ⟨rfl, rfl, rfl⟩
    · exact ⟨rfl, rfl, rfl⟩
    · exact ⟨by simp [setJobStage, only, JobStage.effort], rfl, rfl⟩
  have load : (s.arrive job).load = s.load := by
    simp only [CameraSystem.load, effort, same.executor, demand.queue, demand.preparing, jobs,
      published]
  refine ⟨?_, Nat.le_of_eq load⟩
  rw [load, framesAhead, framesAhead, inFlight, service]
  omega

/-- Every step of a task but a bridge leaves less to do than there was. -/
theorem nearer_step (sound : s.Sound) (inUse : s.inUse = true) {t : Task}
    (other : ∀ feed, t ≠ .bridge feed) (ready : s.ready t = true) : Nearer s (s.step t) := by
  obtain ⟨held, secured⟩ := sound.secured
  cases t with
  | executor => exact .of_turn (secured.turn ready) (by simp [hasSenders, inUse])
  | preparation session =>
    simp only [CameraSystem.ready, Bool.and_eq_true, List.contains_iff_mem] at ready
    exact .prepare ready.1
  | job id =>
    obtain ⟨j, found, ready⟩ := Option.any_eq_true _ _ |>.1 ready
    simp only [CameraSystem.step, found]
    exact .jobStep secured (sound.roster.job_eq found) ready
  | bridge feed => exact absurd rfl (other feed)
  | delivery device => exact .send (List.contains_iff_mem.1 ready)
  | arrival job =>
    obtain ⟨sent, found⟩ := Option.isSome_iff_exists.1 ready
    exact .arrive sound found

end CameraSystem

end Viewfinder
