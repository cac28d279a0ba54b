import Viewfinder.Proofs.Turning

/-!
# What requests come to

An `Outlook` tells what the camera comes to when commands are carried out at once, and a `Plan` what
all requests come to. As long as the hardware refuses nothing, the plan of a system follows the
requests of its users alone: the executor makes of a command at last what can be made of it at once
(`reached_execute`), and no step of a task changes the plan (`plan_step`).
-/

namespace Viewfinder

/-- The camera after some commands. -/
structure Outlook where
  turn : QuarterTurn
  angle : Option UInt32
  /-- The camera that is open. -/
  camera : Option CameraSpec
  /-- Facings of the devices opened. -/
  history : List Facing
  /-- Both rotations of the device that was opened last. -/
  rotations : Option (UInt32 × UInt32)

namespace Outlook

def resolve (o : Outlook) (sensor : Sensor) : Orientation :=
  .resolve sensor.mounting sensor.facing o.turn o.angle

/-- Of a camera that is open already, or that does not exist, nothing comes. -/
def opens (cameras : List CameraSpec) (o : Outlook) (facing : Facing) : Outlook :=
  match o.camera, cameras.find? (·.sensor.facing = facing) with
  | none, some spec =>
    { o with
      camera := some spec
      history := o.history ++ [facing]
      rotations := some (o.resolve spec.sensor).rotations }
  | _, _ => o

def refresh (o : Outlook) : Outlook :=
  match o.camera with
  | none => o
  | some spec => { o with rotations := some (o.resolve spec.sensor).rotations }

def execute (cameras : List CameraSpec) (o : Outlook) : Command → Outlook
  | .openCamera facing _ => o.opens cameras facing
  | .closeCamera => { o with camera := none }
  | .turnDevice turn => { o with turn := turn }.refresh
  | .tiltDevice angle => { o with angle := some angle }.refresh
  | .configurePreview _ | .applyFocus | .barrier => o

/-- How the open camera is turned. -/
def orientation (o : Outlook) : Option Orientation := o.camera.map fun spec => o.resolve spec.sensor

def state (o : Outlook) : HandleState := if o.camera.isSome then .opened else .closed

end Outlook

/-- What is asked for, and what comes of it. -/
structure Plan where
  requests : Requests
  viewport : Size
  outlook : Outlook

namespace Plan

variable (cameras : List CameraSpec) (p : Plan)

def opens (facing : Facing) : Plan :=
  { p with
    requests := ⟨true, facing, p.requests.newest + 1⟩
    outlook := p.outlook.opens cameras facing }

def closes : Plan :=
  { p with
    requests := { p.requests with started := false }
    outlook := { p.outlook with camera := none } }

/-- A request, with what comes of it at once. -/
def steer : Request → Plan
  | .start facing => if p.requests.started then p else p.opens cameras facing
  | .pause => if p.requests.started then p.closes else p
  | .swap =>
    if cameras.length < 2 then p
    else (if p.requests.started then p.closes else p).opens cameras p.requests.facing.toggled
  | .setViewport viewport => { p with viewport := viewport }
  | .turnDevice turn => { p with outlook := p.outlook.execute cameras (.turnDevice turn) }
  | .tiltDevice angle =>
    if angle < 0 then p
    else { p with outlook := p.outlook.execute cameras (.tiltDevice (angle.toUInt32 % 360)) }
  | _ => p

/-- The preview size of the camera that is open. -/
def preview? (tolerance : Double) : Option Size :=
  p.outlook.camera.bind fun spec =>
    Preview.negotiate? spec.capabilities.previewSizes p.viewport tolerance

/-- The preview size that its device is set to. -/
def devicePreview? (tolerance : Double) : Option Size :=
  p.outlook.camera.map fun spec => (p.preview? tolerance).getD spec.defaultPreview

end Plan

namespace CameraSystem

variable {s t : CameraSystem (Simulator Ticket)} {held : Option Nat} {cameras : List CameraSpec}

/-- The outlook if no camera is open. -/
def shut (s : CameraSystem (Simulator Ticket)) : Outlook where
  turn := s.executor.turn
  angle := s.executor.angle
  camera := none
  history := s.service.history
  rotations := s.service.last?.map Fitting.rotations

/-- The outlook if the executor works for `camera`. -/
def working (s : CameraSystem (Simulator Ticket)) (camera : OpenCamera) : Outlook :=
  { s.shut with
    camera := s.service.camera? camera.sensor.facing
    rotations := some (s.resolveOrientation camera.sensor).rotations }

/-- What the commands come to that were taken so far, the one that is being carried out
included. -/
def reached (s : CameraSystem (Simulator Ticket)) : Outlook :=
  match s.executor.stage with
  | .opening facing _ => s.shut.opens s.service.cameras facing
  | _ => s.engaged?.elim s.shut s.working

/-- What all requests so far come to. -/
def plan (s : CameraSystem (Simulator Ticket)) : Plan where
  requests := s.requests
  viewport := s.viewport
  outlook := s.queue.foldl (Outlook.execute s.service.cameras) s.reached

theorem reached_of_engaged {camera : OpenCamera} (engaged : s.engaged? = some camera)
    (unopened : ∀ facing request, s.executor.stage ≠ .opening facing request) :
    s.reached = s.working camera := by
  unfold reached
  split
  · next stage => exact absurd stage (unopened _ _)
  · rw [engaged]
    rfl

theorem reached_of_shut (engaged : s.engaged? = none)
    (unopened : ∀ facing request, s.executor.stage ≠ .opening facing request) :
    s.reached = s.shut := by
  unfold reached
  split
  · next stage => exact absurd stage (unopened _ _)
  · rw [engaged]
    rfl

/-- The camera that the executor works for, as the service offers it. -/
theorem Sized.spec (h : s.Sized) {camera : OpenCamera} (engaged : s.engaged? = some camera) :
    ∃ f, s.Fitted camera f ∧ (s.working camera).camera = some f.spec := by
  obtain ⟨f, fitted⟩ := h.fitted camera engaged
  exact ⟨f, fitted, fitted.present⟩

theorem reached_congr (stage : t.executor.stage = s.executor.stage)
    (turn : t.executor.turn = s.executor.turn) (angle : t.executor.angle = s.executor.angle)
    (slot : t.slot = s.slot) (past : t.service.past = s.service.past)
    (last : t.service.last? = s.service.last?) : t.reached = s.reached := by
  obtain ⟨cameras, history⟩ := Prod.ext_iff.1 past
  simp only [Simulator.past] at cameras history
  have shut : t.shut = s.shut := by
    rw [CameraSystem.shut, turn, angle, history, last]
    rfl
  have working : t.working = s.working := by
    funext camera
    rw [CameraSystem.working, shut, Simulator.camera?_congr cameras, resolveOrientation, turn, angle]
    rfl
  rw [reached, engaged?, stage, slot, shut, working, cameras]
  rfl

theorem reached_of_idle (idle : s.executor.stage = .idle) :
    s.reached = s.slot.elim s.shut s.working := by
  rw [reached, engaged?, idle]
  rfl

theorem reached_refreshOrientation (idle : s.executor.stage = .idle) :
    s.refreshOrientation.reached = s.slot.elim s.shut s.working := by
  rcases s.refreshOrientation_cases with ⟨-, eq⟩ | ⟨camera, slot, ⟨-, eq⟩ | ⟨-, eq⟩⟩
  all_goals rw [eq]
  · exact reached_of_idle idle
  · exact (reached_congr rfl rfl rfl rfl rfl rfl).trans (reached_of_idle idle)
  · have works : s.slot.elim s.shut s.working = s.working camera := by rw [slot]; rfl
    refine Eq.trans (reached_of_engaged ?_ fun _ _ => Stage.noConfusion) works.symm
    exact slot

/-- Once the executor has been told anew how the device is held, the camera is turned. -/
theorem reached_refresh (sized : s.Sized) (idle : s.executor.stage = .idle) (turn : QuarterTurn)
    (angle : Option UInt32) :
    { s with executor := { s.executor with turn := turn, angle := angle } }.refreshOrientation.reached =
      { s.reached with turn := turn, angle := angle }.refresh := by
  refine (reached_refreshOrientation
    (s := { s with executor := { s.executor with turn := turn, angle := angle } }) idle).trans ?_
  show s.slot.elim _ _ = _
  rw [reached_of_idle idle]
  cases slot : s.slot with
  | none => rfl
  | some camera =>
    obtain ⟨f, fitted, open_⟩ := sized.spec ((engaged?_of_idle idle).trans slot)
    simp only [Option.elim, Outlook.refresh, open_]
    rw [← fitted.sensor, ← open_]
    rfl

/-- A device that is closed stays turned as it is. -/
theorem reached_close (sized : s.Sized) (turned : s.Turned) (idle : s.executor.stage = .idle) :
    (s.beginClose false).reached = { s.reached with camera := none } := by
  rw [reached_of_idle idle]
  cases slot : s.slot with
  | none =>
    simp only [beginClose, slot]
    exact reached_of_shut slot fun _ _ => Stage.noConfusion
  | some camera =>
    have engaged := (engaged?_of_idle idle).trans slot
    obtain ⟨f, fitted, -⟩ := sized.spec engaged
    have aims := turned camera f engaged fitted.last
    rw [idle] at aims
    have rotations : s.service.last?.map Fitting.rotations =
        some (s.resolveOrientation camera.sensor).rotations := by
      rw [fitted.last]
      exact congrArg some aims
    simp only [beginClose, slot]
    refine (reached_of_shut rfl fun _ _ => Stage.noConfusion).trans ?_
    simp only [Option.elim, CameraSystem.working, ← rotations]
    rfl

/-- The executor makes of a command at last what can be made of it at once. -/
theorem reached_execute (sized : s.Sized) (turned : s.Turned) (idle : s.executor.stage = .idle)
    (c : Command) : (s.execute c).reached = s.reached.execute s.service.cameras c := by
  have works {camera : OpenCamera} (slot : s.slot = some camera) :
      s.reached = s.working camera := by
    rw [reached_of_idle idle, slot]
    rfl
  have told : s.reached.turn = s.executor.turn ∧ s.reached.angle = s.executor.angle := by
    rw [reached_of_idle idle]
    cases s.slot <;> exact ⟨rfl, rfl⟩
  cases c with
  | openCamera facing request =>
    simp only [CameraSystem.execute]
    cases slot : s.slot with
    | none =>
      rw [reached_of_idle idle, slot]
      rfl
    | some camera =>
      obtain ⟨f, -, open_⟩ := sized.spec ((engaged?_of_idle idle).trans slot)
      simp [Outlook.execute, Outlook.opens, works slot, open_]
  | closeCamera => exact reached_close sized turned idle
  | configurePreview session =>
    rw [CameraSystem.execute]
    rcases s.configurePreview_cases session with
      ⟨-, eq⟩ | ⟨camera, slot, -, ⟨-, eq⟩ | ⟨size, -, ⟨-, eq⟩ | ⟨-, eq⟩⟩⟩
    all_goals rw [eq]
    · rfl
    · rfl
    · unfold announce
      split
      · rfl
      · exact reached_congr rfl rfl rfl rfl rfl rfl
    · refine Eq.trans (reached_of_engaged ?_ fun _ _ => Stage.noConfusion) (works slot).symm
      exact slot
  | turnDevice turn =>
    refine (reached_refresh sized idle turn s.executor.angle).trans ?_
    rw [← told.2]
    rfl
  | tiltDevice angle =>
    refine (reached_refresh sized idle s.executor.turn (some angle)).trans ?_
    rw [← told.1]
    rfl
  | applyFocus =>
    rw [CameraSystem.execute]
    obtain ⟨tap, eq | ⟨camera, slot, eq | ⟨request, eq⟩⟩⟩ := s.applyFocus_cases
    all_goals rw [eq]
    · exact reached_congr rfl rfl rfl rfl rfl rfl
    · refine Eq.trans (reached_of_engaged ?_ fun _ _ => Stage.noConfusion) (works slot).symm
      exact slot
    · refine Eq.trans (reached_of_engaged ?_ fun _ _ => Stage.noConfusion) (works slot).symm
      exact slot
  | barrier => exact reached_congr rfl rfl rfl rfl rfl rfl

/-! ## Steps of tasks change no plan -/

/-- Every camera that can be asked for exists. -/
def Complete (cameras : List CameraSpec) : Prop :=
  ∀ facing, ∃ spec ∈ cameras, spec.sensor.facing = facing

theorem Steady.camera? (h : s.Steady cameras) (complete : Complete cameras) (facing : Facing) :
    (s.service.camera? facing).isSome = true := by
  obtain ⟨spec, mem, looks⟩ := complete facing
  rw [← h.cameras] at mem
  simpa [Simulator.camera?] using ⟨spec, mem, looks⟩

/-- Without a camera to work for the executor does nothing but release one. -/
theorem Secured.spares_of_unengaged (h : s.Secured held) {routine : Routine} {next : Continuation}
    (stage : s.executor.stage = .native routine next) (engaged : s.engaged? = none) :
    Spares DeviceCall.rotates routine.steps := by
  have custody := h.custody
  rw [stage] at custody
  rw [engaged?, stage] at engaged
  cases next with
  | install => cases engaged
  | abandon => exact custody.elim
  | forget =>
    have all := Routine.release_spares_rotations routine.device
    obtain ⟨-, -, ⟨-, left | left⟩ | ⟨-, left⟩⟩ := custody
    · exact left ▸ all
    · exact left ▸ fun step mem => all step (List.mem_of_mem_tail mem)
    · exact left ▸ spares_nil
  | resize | turn | focus =>
    obtain ⟨camera, slot, -⟩ := custody
    cases slot.symm.trans engaged

/-- A release neither turns the device nor opens another. -/
theorem reached_call (sized : s.Sized) (secured : s.Secured held) (willing : s.service.Willing)
    {routine : Routine} {next : Continuation} {step : NativeStep} {rest : List NativeStep}
    (stage : s.executor.stage = .native routine next) (steps : routine.steps = step :: rest) :
    ({ s with service := (routine.perform s.service).2 }.setStage
      (.native (routine.perform s.service).1 next)).reached = s.reached := by
  have made : (routine.perform s.service).2 = (s.service.call routine.device step.call).2 :=
    service_perform steps s.service
  have past : (routine.perform s.service).2.past = s.service.past := by
    rw [made, Simulator.past_call]
  obtain ⟨cameras, history⟩ := Prod.ext_iff.1 past
  simp only [Simulator.past] at cameras history
  have unopened (facing : Facing) (request : Nat) :
      s.executor.stage ≠ .opening facing request := by
    rw [stage]
    exact Stage.noConfusion
  cases engaged : s.engaged? with
  | some camera =>
    rw [reached_of_engaged engaged unopened]
    refine (reached_of_engaged (?_ : engaged? _ = some camera)
      fun _ _ => Stage.noConfusion).trans ?_
    · rw [engaged?, stage] at engaged
      cases next <;> exact engaged
    · simp only [CameraSystem.working, CameraSystem.shut, setStage, history,
        Simulator.camera?_congr cameras]
      rfl
  | none =>
    rw [reached_of_shut engaged unopened]
    refine (reached_of_shut ?_ fun _ _ => Stage.noConfusion).trans ?_
    · rw [engaged?, stage] at engaged
      cases next <;> exact engaged
    have holds := secured.holds
    rw [secured.of_native stage steps] at holds
    have spares := secured.spares_of_unengaged stage engaged
    obtain ⟨d, -, unreleased, last, after⟩ := holds.call_last? sized.newest step.call
    have rotations := SimulatedDevice.rotations_call unreleased willing.2 step.call
    rw [spares step (by simp [steps])] at rotations
    rw [made] at history
    simp [CameraSystem.shut, setStage, history, made, last, after, rotations]

theorem plan_take (sized : s.Sized) (turned : s.Turned) (idle : s.executor.stage = .idle)
    {c : Command} {rest : List Command} (queue : s.queue = c :: rest) :
    ({ s with queue := rest }.execute c).plan = s.plan := by
  have reached := reached_execute (s := { s with queue := rest })
    (sized.of_idle idle idle rfl rfl rfl rfl) (turned.of_idle idle idle rfl rfl rfl rfl) idle c
  have same : ({ s with queue := rest } : CameraSystem _).reached = s.reached :=
    reached_congr rfl rfl rfl rfl rfl rfl
  have kept := execute_sameCaptures { s with queue := rest } c
  have errands := execute_sameErrands { s with queue := rest } c
  rw [plan, plan, errands.requests, kept.viewport, errands.queue, errands.service, reached, same,
    queue]
  rfl

/-- A camera that is being opened was planned to be open, and turned as it will be. -/
theorem plan_acquire {facing : Facing} {request : Nat} {spec : CameraSpec}
    (stage : s.executor.stage = .opening facing request)
    (present : s.service.camera? facing = some spec) (capabilities : Capabilities)
    (o : Orientation) :
    ({ s with service := s.service.opened spec }.setStage
      (.native (.configure s.service.devices.length capabilities o)
        (.install facing request ⟨s.service.devices.length, spec.sensor, capabilities,
          s.executor.sessions + 1⟩ o))).plan = s.plan := by
  have opens : s.reached = s.shut.opens s.service.cameras facing := by rw [reached, stage]
  obtain ⟨cameras, history⟩ := Prod.ext_iff.1 (Simulator.past_opened present)
  simp only [Simulator.past] at cameras history
  have looks := Simulator.camera?_facing present
  have found : s.service.cameras.find? (·.sensor.facing = facing) = some spec := present
  have opened := reached_of_engaged (s := { s with service := s.service.opened spec }.setStage
    (.native (.configure s.service.devices.length capabilities o)
      (.install facing request
        ⟨s.service.devices.length, spec.sensor, capabilities, s.executor.sessions + 1⟩ o)))
    rfl fun _ _ => Stage.noConfusion
  rw [plan, plan, opened, opens]
  simp only [setStage, CameraSystem.working, CameraSystem.shut, Outlook.opens, found, history,
    Simulator.camera?_congr cameras, looks, present]
  rfl

theorem plan_resume (secured : s.Secured held) {routine : Routine} {next : Continuation}
    (stage : s.executor.stage = .native routine next) (works : next.works = true) :
    (s.resume routine next).plan = s.plan := by
  have returned := s.resume_returned routine works
  have kept := s.resume_sameCaptures routine next
  have errands := s.resume_sameErrands routine works
  obtain ⟨camera, slot, -⟩ := secured.of_works stage works
  have before : s.reached = s.working camera :=
    reached_of_engaged ((engaged?_of_works stage works).trans slot)
      (by rw [stage]; exact fun _ _ => Stage.noConfusion)
  have after : (s.resume routine next).reached = s.working camera := by
    rw [reached_of_idle returned.idle, returned.slot, slot, Option.elim, CameraSystem.working,
      CameraSystem.shut, resolveOrientation, returned.service, returned.turn, returned.angle]
    rfl
  rw [plan, plan, before, after, errands.requests, kept.viewport, returned.queue,
    returned.service]

/-- A step of the executor carries out what was planned. -/
theorem plan_turn (h : s.Steady cameras) (complete : Complete cameras) (turn : Turn s t) :
    t.plan = s.plan := by
  obtain ⟨held, secured⟩ := h.previewed.tuned.sound.secured
  have sized := h.previewed.tuned.sized
  cases turn with
  | take c rest idle queue => exact plan_take sized h.turned idle queue
  | finish idle queue unsent => simp [hasSenders, h.inUse] at unsent
  | missing facing request stage absent =>
    have present := h.camera? complete facing
    simp [absent] at present
  | refused facing request stage present failing =>
    have none := h.willing.1
    omega
  | acquired facing request spec capabilities o stage present reported resolved =>
    exact plan_acquire stage present capabilities o
  | called routine next step rest stage steps =>
    have reached := reached_call sized secured h.willing stage steps
    have past : (routine.perform s.service).2.past = s.service.past :=
      (congrArg Simulator.past (service_perform steps s.service)).trans (Simulator.past_call _ _)
    have cameras : (routine.perform s.service).2.cameras = s.service.cameras :=
      congrArg Prod.fst past
    rw [plan, plan, reached]
    simp only [setStage, cameras]
  | installed routine facing request camera o stage steps =>
    have engaged : s.engaged? = some camera := by rw [engaged?, stage]; rfl
    have before := reached_of_engaged engaged (by rw [stage]; exact fun _ _ => Stage.noConfusion)
    have installed : (s.install facing camera o).engaged? = some camera := rfl
    have after := reached_of_engaged installed fun _ _ => Stage.noConfusion
    rw [plan, plan, before, after]
    rfl
  | forgotten routine facing last stage steps =>
    have slot := (secured.of_closing stage).1
    have engaged : s.engaged? = none := by rw [engaged?, stage]; exact slot
    have before := reached_of_shut engaged (by rw [stage]; exact fun _ _ => Stage.noConfusion)
    have after : (s.forget facing last).reached = (s.forget facing last).shut := by
      refine reached_of_shut ?_ ?_
      · cases last <;> exact slot
      · cases last <;> exact fun _ _ => Stage.noConfusion
    rw [plan, plan, before, after]
    cases last <;> rfl
  | worked routine next works stage steps => exact plan_resume secured stage works

/-- What others than the executor and the users do is no part of the plan. -/
theorem plan_of_undisturbed (same : Undisturbed s t) (past : t.service.past = s.service.past)
    (last : t.service.last? = s.service.last?) (requests : t.requests = s.requests)
    (viewport : t.viewport = s.viewport)
    (queue : t.queue = s.queue ∨ ∃ session, t.queue = s.queue ++ [.configurePreview session]) :
    t.plan = s.plan := by
  have reached : t.reached = s.reached := by
    refine reached_congr ?_ ?_ ?_ same.slot past last <;> rw [same.executor]
  have cameras : t.service.cameras = s.service.cameras := congrArg Prod.fst past
  rw [plan, plan, requests, viewport, reached, cameras]
  rcases queue with queue | ⟨session, queue⟩
  · rw [queue]
  · rw [queue, List.foldl_append]
    rfl

theorem plan_step (h : s.Steady cameras) (complete : Complete cameras) {t : Task}
    (ready : s.ready t = true) : (s.step t).plan = s.plan := by
  by_cases own : t = .executor
  · subst own
    obtain ⟨held, secured⟩ := h.previewed.tuned.sound.secured
    exact plan_turn h complete (secured.turn ready)
  have other : Move.task t ≠ .task .executor := fun eq => own (Move.task.inj eq)
  have same := s.step_undisturbed own
  have past := past_move (s := s) other
  have last := last?_move (s := s) other
  cases t with
  | executor => exact absurd rfl own
  | preparation session =>
    refine plan_of_undisturbed same past last ?_ ?_ ?_ <;>
      simp only [CameraSystem.step, prepare, submit] <;> split
    · rfl
    · rfl
    · rfl
    · rfl
    · exact .inl rfl
    · exact .inr ⟨session, rfl⟩
  | job id =>
    cases found : s.job? id with
    | none => simp [CameraSystem.step, found]
    | some j =>
      have demand := s.jobStep_sameDemand j
      have eq : s.step (.job id) = s.jobStep j := by simp [CameraSystem.step, found]
      rw [CameraSystem.move, eq] at past last
      rw [eq] at same ⊢
      exact plan_of_undisturbed same past last demand.requests demand.viewport (.inl demand.queue)
  | bridge feed =>
    simp only [CameraSystem.step]
    cases s.bridge? feed <;> rfl
  | delivery device =>
    obtain ⟨demand, -⟩ := s.send_sameDemand device
    exact plan_of_undisturbed same past last demand.requests demand.viewport (.inl demand.queue)
  | arrival job =>
    obtain ⟨demand, -⟩ := s.arrive_sameDemand job
    exact plan_of_undisturbed same past last demand.requests demand.viewport (.inl demand.queue)

end CameraSystem

end Viewfinder
