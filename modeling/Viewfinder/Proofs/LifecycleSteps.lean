import Viewfinder.Proofs.Lifecycle

/-!
# Moves are steps of the lifecycle

Each move of a system over simulated cameras is one step of its lifecycle (`lifecycle_move`). Most
are quiet: only requests to open and to close, and the executor when it opens or closes, show.
-/

namespace Viewfinder.CameraSystem

variable {s t : CameraSystem (Simulator Ticket)} {held : Option Nat}

/-! ## Requests -/

theorem lifecycle_request (s : CameraSystem (Simulator Ticket)) (inUse : s.inUse = true)
    (r : Request) :
    s.lifecycle.Step (s.accepts? (.request r)) (s.request r).lifecycle := by
  cases r with
  | start facing =>
    cases started : s.requests.started with
    | true =>
      simp only [accepts?, request, start, started, if_true]
      exact .quiet _
    | false =>
      have := Lifecycle.Step.start s.lifecycle facing inUse started
      simpa [accepts?, request, start, started, openRequest, submit, lifecycle, journal,
        Command.order?] using this
  | pause =>
    cases started : s.requests.started with
    | true =>
      have := Lifecycle.Step.pause s.lifecycle inUse started
      simpa [accepts?, request, pause, started, submit, lifecycle, journal,
        Command.order?] using this
    | false =>
      simp only [accepts?, request, pause, started]
      exact .quiet _
  | swap =>
    by_cases few : s.service.cameras.length < 2
    · simp only [accepts?, request, swap, CameraService.cameraCount, few, if_true]
      exact .quiet _
    · have := Lifecycle.Step.swap s.lifecycle inUse
      cases started : s.requests.started <;>
        simpa [accepts?, request, swap, CameraService.cameraCount, few, started, openRequest,
          submit, lifecycle, journal, Command.order?] using this
  | setViewport viewport =>
    have same : (s.setViewport viewport).lifecycle = s.lifecycle := by
      unfold setViewport
      split
      · rfl
      · dsimp only
        split
        · exact lifecycle_submit _ _ rfl
        · rfl
    exact same ▸ .quiet _
  | turnDevice turn => exact lifecycle_submit s (.turnDevice turn) rfl ▸ .quiet _
  | tiltDevice angle =>
    simp only [accepts?, request, tiltDevice]
    split
    · exact .quiet _
    · exact lifecycle_submit s (.tiltDevice _) rfl ▸ .quiet _
  | focusOn tap =>
    have same : (s.focusOn tap).2.lifecycle = s.lifecycle := by
      unfold focusOn
      repeat' (first | rfl | exact lifecycle_submit _ _ rfl | split)
    exact same ▸ .quiet _
  | takePicture visible =>
    have same : (s.takePicture visible).2.lifecycle = s.lifecycle := by
      unfold takePicture
      split <;> rfl
    exact same ▸ .quiet _
  | setListener =>
    exact lifecycle_clearListener { s with bus := s.bus.attach.2 } ▸ .quiet _
  | clearListener => exact lifecycle_clearListener s ▸ .quiet _
  | subscribe => exact .quiet _
  | barrier => exact lifecycle_submit s .barrier rfl ▸ .quiet _
  | drop => exact lifecycle_clearListener s ▸ .drop _

/-! ## Steps of the executor -/

@[simp] theorem lifecycle_publish (s : CameraSystem (Simulator Ticket)) (e : Event) :
    (s.publish e).lifecycle =
      { s.lifecycle with journal := s.lifecycle.journal ++ [e].filter Event.ofLifecycle } := by
  rw [show s.lifecycle.journal = s.journal from rfl, ← journal_publish]
  rfl

@[simp] theorem lifecycle_enter (s : CameraSystem (Simulator Ticket)) (state : HandleState)
    (facing : Facing) : (s.enter state facing).lifecycle =
      { s.lifecycle with
        journal := s.lifecycle.journal ++ [.stateChanged s.state state facing] } :=
  lifecycle_publish { s with state := state } _

@[simp] theorem lifecycle_setStage (s : CameraSystem (Simulator Ticket)) (stage : Stage) :
    (s.setStage stage).lifecycle = { s.lifecycle with phase := stage.phase s.slot } := rfl

/-- Events of other kinds leave the lifecycle alone. -/
theorem lifecycle_publish_other (s : CameraSystem (Simulator Ticket)) {e : Event}
    (other : e.ofLifecycle = false) : (s.publish e).lifecycle = s.lifecycle := by
  simp [other]

/-- A stage that works on the camera in the slot does so too. -/
theorem lifecycle_setStage_of_idle (idle : s.executor.stage = .idle) {stage : Stage}
    (same : stage.phase s.slot = Stage.idle.phase s.slot) :
    (s.setStage stage).lifecycle = s.lifecycle :=
  lifecycle_eq rfl rfl (by rw [idle]; exact same) rfl rfl rfl rfl

theorem lifecycle_announce (s : CameraSystem (Simulator Ticket)) (camera : OpenCamera)
    (size : Size) :
    (s.announce camera size).lifecycle = s.lifecycle := by
  unfold announce
  split
  · rfl
  · exact lifecycle_publish_other _ rfl

theorem lifecycle_configurePreview (idle : s.executor.stage = .idle) (session : Nat) :
    (s.configurePreview session).lifecycle = s.lifecycle := by
  unfold configurePreview
  repeat' (first | rfl | exact lifecycle_announce _ _ _ | split)
  exact lifecycle_setStage_of_idle idle rfl

theorem lifecycle_refreshOrientation (idle : s.executor.stage = .idle) :
    s.refreshOrientation.lifecycle = s.lifecycle := by
  unfold refreshOrientation
  split
  · rfl
  · dsimp only
    split
    · rfl
    · exact lifecycle_setStage_of_idle (s := { s with orientation := _ }) idle rfl

theorem lifecycle_applyFocus (idle : s.executor.stage = .idle) :
    s.applyFocus.lifecycle = s.lifecycle := by
  unfold applyFocus
  split
  · rfl
  · dsimp only
    split
    · split
      · exact lifecycle_setStage_of_idle (s := { s with tap := none }) idle rfl
      · rfl
      · exact lifecycle_setStage_of_idle (s := { s with tap := none }) idle rfl
    · rfl

theorem lifecycle_beginClose {camera : OpenCamera} (slot : s.slot = some camera)
    (state : s.state = .opened) (last : Bool) :
    (s.beginClose last).lifecycle = { s.lifecycle with
      phase := .closing camera.sensor.facing
      journal := s.lifecycle.journal ++
        [.stateChanged .opened .closing camera.sensor.facing] } := by
  simp only [beginClose, slot, lifecycle_setStage, lifecycle_enter, state]
  rfl

/-- A command was taken from the queue. -/
theorem lifecycle_execute (h : s.Secured held) (idle : s.executor.stage = .idle)
    (c : Command) :
    { s.lifecycle with orders := c.order?.toList ++ s.lifecycle.orders }.Step none
      (s.execute c).lifecycle := by
  have between := h.between (.inl idle)
  cases c with
  | openCamera facing request =>
    rcases between with ⟨slot, state, -⟩ | ⟨camera, slot, -, -⟩
    · have same : (s.execute (.openCamera facing request)).lifecycle = { s.lifecycle with
          phase := .opening facing request
          journal := s.lifecycle.journal ++ [.stateChanged .closed .opening facing] } := by
        simp [execute, slot, state, Stage.phase]
      rw [same]
      exact .takeOpen _ facing request _ (by simp [lifecycle, idle, slot, Stage.phase]) rfl
    · have same : s.execute (.openCamera facing request) = s := by simp [execute, slot]
      rw [same]
      exact .skipOpen _ camera.sensor.facing facing request _
        (by simp [lifecycle, idle, slot, Stage.phase]) rfl
  | closeCamera =>
    rcases between with ⟨slot, -, -⟩ | ⟨camera, slot, state, -⟩
    · have same : (s.execute .closeCamera).lifecycle = s.lifecycle := by
        simp only [execute, beginClose, slot]
        exact lifecycle_setStage_of_idle idle rfl
      rw [same]
      exact .skipClose _ _ (by simp [lifecycle, idle, slot, Stage.phase]) rfl
    · rw [execute, lifecycle_beginClose slot state]
      exact .takeClose _ camera.sensor.facing _ (by simp [lifecycle, idle, slot, Stage.phase]) rfl
  | configurePreview session =>
    rw [execute, lifecycle_configurePreview idle]
    exact .quiet _
  | turnDevice turn =>
    rw [execute, lifecycle_refreshOrientation
      (s := { s with executor := { s.executor with turn := turn } }) idle]
    exact .quiet _
  | tiltDevice angle =>
    rw [execute, lifecycle_refreshOrientation
      (s := { s with executor := { s.executor with angle := some angle } }) idle]
    exact .quiet _
  | applyFocus =>
    rw [execute, lifecycle_applyFocus idle]
    exact .quiet _
  | barrier => exact .quiet _

theorem lifecycle_failOpen (slot : s.slot = none) (state : s.state = .opening) (facing : Facing)
    (request : Nat) (e : CameraError) :
    (s.failOpen facing request e).lifecycle = { s.lifecycle with
      phase := .closed
      requests := { s.requests with started := s.requests.started && s.requests.newest != request }
      journal := s.lifecycle.journal ++
        [.stateChanged .opening .closed facing, .failed facing (.ofError e)] } := by
  rw [failOpen, withdraw_eq, lifecycle_setStage, lifecycle_publish, lifecycle_enter]
  simp only [enter, publish, slot, state, Stage.phase, List.append_assoc]
  rfl

theorem lifecycle_forget (slot : s.slot = none) (state : s.state = .closing) (facing : Facing)
    (last : Bool) : (s.forget facing last).lifecycle = { s.lifecycle with
      phase := .closed
      journal := s.lifecycle.journal ++ [.stateChanged .closing .closed facing] } := by
  rw [forget, lifecycle_setStage, lifecycle_enter, state]
  cases last <;> simp only [enter, publish, slot, Stage.phase] <;> rfl

/-- What the executor does to its routines on the open camera shows to nobody. -/
theorem lifecycle_resume {routine : Routine} {next : Continuation}
    (stage : s.executor.stage = .native routine next) (works : next.works = true) :
    (s.resume routine next).lifecycle = s.lifecycle := by
  have idle {t : CameraSystem (Simulator Ticket)} (same : t.lifecycle = s.lifecycle)
      (slot : t.slot = s.slot) : (t.setStage .idle).lifecycle = s.lifecycle := by
    have phase : Stage.idle.phase s.slot = s.lifecycle.phase := by
      rw [lifecycle, stage]
      cases next with
      | install | abandon | forget => cases works
      | resize | turn | focus => rfl
    rw [lifecycle_setStage, same, slot, phase]
  have published (e : Event) (other : e.ofLifecycle = false) :
      ((s.publish e).setStage .idle).lifecycle = s.lifecycle :=
    idle (lifecycle_publish_other s other) rfl
  have unpublished : (s.setStage .idle).lifecycle = s.lifecycle := idle rfl rfl
  cases next with
  | install | abandon | forget => cases works
  | resize camera size =>
    simp only [resume]
    split
    · refine idle (lifecycle_announce { s with preview := some size } camera size) ?_
      unfold announce
      split <;> rfl
    · exact unpublished
  | turn o => exact published _ rfl
  | focus request =>
    simp only [resume]
    split
    · exact published _ rfl
    · exact unpublished

theorem lifecycle_turn (h : s.Secured held) (turn : Turn s t) :
    s.lifecycle.Step none t.lifecycle := by
  cases turn with
  | take c rest idle queue =>
    have taken : { s with queue := rest }.Secured held :=
      ⟨h.custody, h.holds, by simp [Ending, idle]⟩
    have orders : s.lifecycle = { ({ s with queue := rest } : CameraSystem _).lifecycle with
        orders := c.order?.toList ++ rest.filterMap Command.order? } := by
      cases order : c.order? <;> simp [lifecycle, queue, order, journal]
    rw [orders]
    exact lifecycle_execute taken idle c
  | finish idle queue unsent =>
    rcases h.between (.inl idle) with ⟨slot, -, -⟩ | ⟨camera, slot, state, -⟩
    · have same : (s.beginClose true).lifecycle = s.lifecycle := by
        simp only [beginClose, slot]
        exact lifecycle_setStage_of_idle idle rfl
      rw [same]
      exact .quiet _
    · rw [lifecycle_beginClose slot state]
      refine .finish _ camera.sensor.facing ?_ (by simp [lifecycle, idle, slot, Stage.phase])
        (by simp [lifecycle, queue])
      simp only [hasSenders, Bool.or_eq_false_iff] at unsent
      exact unsent.1
  | missing facing request stage absent =>
    obtain ⟨slot, state, -⟩ := h.of_opening stage
    rw [lifecycle_failOpen slot state]
    refine .fail _ facing request _ (by simp [lifecycle, stage, Stage.phase]) ?_
    simp [lifecycle, Simulator.missing_iff, absent, FailureReason.ofError]
  | refused facing request stage present =>
    obtain ⟨slot, state, -⟩ := h.of_opening stage
    rw [lifecycle_failOpen (s := { s with service := s.service.failedOnce }) slot state]
    refine .fail s.lifecycle facing request _ (by simp [lifecycle, stage, Stage.phase]) ?_
    simp [lifecycle, Simulator.missing_iff, Option.isSome_iff_ne_none.1 present,
      FailureReason.ofError]
  | acquired facing request spec capabilities o stage present =>
    obtain ⟨cameras, history⟩ := Prod.ext_iff.1 (Simulator.past_opened present)
    simp only [Simulator.past] at cameras history
    have acquires := Lifecycle.Step.acquire s.lifecycle facing request
      (by simp [lifecycle, stage, Stage.phase])
    simpa [lifecycle, setStage, journal, Stage.phase, cameras, history] using acquires
  | called routine next step rest stage steps =>
    have same : ({ s with service := (routine.perform s.service).2 }.setStage
        (.native (routine.perform s.service).1 next)).lifecycle = s.lifecycle := by
      refine lifecycle_eq ?_ rfl (by rw [stage]; cases next <;> rfl) rfl rfl rfl rfl
      exact (congrArg Simulator.past (service_perform steps s.service)).trans
        (Simulator.past_call _ _)
    rw [same]
    exact .quiet _
  | installed routine facing request camera o stage steps =>
    obtain ⟨-, state, -, -, rfl, -⟩ := h.of_installing stage
    have installs := Lifecycle.Step.install s.lifecycle camera.sensor.facing request
      (by simp [lifecycle, stage, Stage.phase])
    rw [install, lifecycle_publish_other _ rfl, lifecycle_enter, state]
    exact installs
  | forgotten routine facing last stage steps =>
    obtain ⟨slot, state⟩ := h.of_closing stage
    rw [lifecycle_forget slot state]
    exact .forget _ facing (by simp [lifecycle, stage, Stage.phase])
  | worked routine next works stage steps =>
    rw [lifecycle_resume stage works]
    exact .quiet _

/-! ## Steps of the other tasks -/

/-- A service that has seen no other opens is as good as the one before. -/
theorem lifecycle_service (s : CameraSystem (Simulator Ticket)) {service : Simulator Ticket}
    (past : service.past = s.service.past) :
    { s with service := service }.lifecycle = s.lifecycle :=
  lifecycle_eq past rfl rfl rfl rfl rfl rfl

theorem lifecycle_requestFrame (s : CameraSystem (Simulator Ticket)) (ticket : Ticket) :
    (s.requestFrame ticket).lifecycle = s.lifecycle := by
  unfold requestFrame
  split
  · rfl
  · next camera _ =>
    have past : (CameraService.requestFrame camera.device ticket s.service).2.past =
      s.service.past := Simulator.past_requestFrame _ _
    split <;> next made =>
      rw [made] at past
      exact lifecycle_service s past

theorem lifecycle_jobStep (s : CameraSystem (Simulator Ticket)) (j : Job) :
    (s.jobStep j).lifecycle = s.lifecycle := by
  cases stage : j.stage with
  | waiting =>
    simp only [jobStep, stage]
    repeat' (first | rfl | split)
  | ready =>
    simp only [jobStep, stage]
    exact lifecycle_requestFrame s j.ticket
  | requested =>
    simp only [jobStep, stage]
    split <;> rfl
  | received shot =>
    simp only [jobStep, stage]
    rfl
  | processing shot =>
    simp only [jobStep, stage]
    split
    · exact lifecycle_publish_other (s.endJob j.ticket.job) rfl
    · rfl

theorem lifecycle_bridgeStep (s : CameraSystem (Simulator Ticket)) (b : Bridge) :
    (s.bridgeStep b).lifecycle = s.lifecycle :=
  lifecycle_eq rfl rfl rfl rfl rfl rfl (by simp only [journal, bridgeStep, b.published_step])

theorem lifecycle_send (s : CameraSystem (Simulator Ticket)) (device : Nat) :
    (s.send device).lifecycle = s.lifecycle := by
  have past : (CameraService.fire device s.service).2.past = s.service.past := Simulator.past_fire _
  unfold send
  split <;> next made =>
    rw [made] at past
    exact lifecycle_service s past

theorem lifecycle_arrive (s : CameraSystem (Simulator Ticket)) (job : Nat) :
    (s.arrive job).lifecycle = s.lifecycle := by
  simp only [arrive, handOver]
  repeat' (first | rfl | split)

/-- A move is a step of the lifecycle, labelled with the request to open that it makes. -/
theorem lifecycle_move (h : s.Secured held) {m : Move} (enabled : s.enabled m = true) :
    s.lifecycle.Step (s.accepts? m) (s.move m).lifecycle := by
  cases m with
  | request r => exact lifecycle_request s enabled r
  | setFaults faults => exact .quiet _
  | task t =>
    cases t with
    | executor => exact lifecycle_turn h (h.turn enabled)
    | preparation session =>
      have same : (s.prepare session).lifecycle = s.lifecycle := by
        unfold prepare
        dsimp only
        split
        · rfl
        · exact lifecycle_submit _ _ rfl
      exact same ▸ .quiet _
    | job id =>
      simp only [accepts?, move, step]
      cases s.job? id with
      | none => exact .quiet _
      | some j => exact (lifecycle_jobStep s j).symm ▸ .quiet _
    | bridge feed =>
      simp only [accepts?, move, step]
      cases s.bridge? feed with
      | none => exact .quiet _
      | some b => exact (lifecycle_bridgeStep s b).symm ▸ .quiet _
    | delivery device => exact (lifecycle_send s device).symm ▸ .quiet _
    | arrival job => exact (lifecycle_arrive s job).symm ▸ .quiet _

end Viewfinder.CameraSystem
