import Viewfinder.Proofs.Outlook

/-!
# Schedules

What a system comes to does not depend on when its tasks make their steps. A request changes the
plan as if it were carried out at once (`plan_request`), and a system that rests shows what its plan
comes to (`Steady.fulfils`). So two systems that were asked for the same agree once they rest
(`schedule_independent`).
-/

namespace Viewfinder

/-- A request that concerns the camera, its preview or its orientation. -/
def Request.steers : Request → Bool
  | .start _ | .pause | .swap | .setViewport _ | .turnDevice _ | .tiltDevice _ => true
  | _ => false

/-- The request of a move that steers the camera. -/
def Move.steering? : Move → Option Request
  | .request r => if r.steers then some r else none
  | _ => none

namespace CameraSystem

variable {s t u : CameraSystem (Simulator Ticket)} {cameras : List CameraSpec}

/-- A request that leaves commands behind changes the plan by what comes of them. -/
theorem plan_eq {s : CameraSystem (Simulator Ticket)} {r : Request} {p : Plan}
    (commands : List Command) (queue : (s.request r).queue = s.queue ++ commands)
    (requests : (s.request r).requests = p.requests)
    (viewport : (s.request r).viewport = p.viewport)
    (comes : commands.foldl (Outlook.execute s.service.cameras) s.plan.outlook = p.outlook) :
    (s.request r).plan = p := by
  have same := s.request_undisturbed r
  have service := s.service_request r
  have reached : (s.request r).reached = s.reached := by
    refine reached_congr ?_ ?_ ?_ same.slot ?_ ?_ <;> simp only [same.executor, service]
  obtain ⟨_, _, _⟩ := p
  simp only [plan] at comes requests viewport ⊢
  rw [requests, viewport, reached, queue, service, List.foldl_append, comes]

/-- A request changes the plan as if it were carried out at once. -/
theorem plan_request (s : CameraSystem (Simulator Ticket)) (r : Request) :
    (s.request r).plan = s.plan.steer s.service.cameras r := by
  cases r with
  | start facing =>
    cases started : s.requests.started with
    | true => simp [request, start, Plan.steer, plan, started]
    | false =>
      refine plan_eq [.openCamera facing (s.requests.newest + 1)] ?_ ?_ ?_ ?_ <;>
        simp [request, start, openRequest, submit, Plan.steer, Plan.opens, plan, started,
          Outlook.execute]
  | pause =>
    cases started : s.requests.started with
    | true =>
      refine plan_eq [.closeCamera] ?_ ?_ ?_ ?_ <;>
        simp [request, pause, submit, Plan.steer, Plan.closes, plan, started, Outlook.execute]
    | false => simp [request, pause, Plan.steer, plan, started]
  | swap =>
    by_cases few : s.service.cameras.length < 2
    · simp [request, swap, Plan.steer, CameraService.cameraCount, few]
    · refine plan_eq ((if s.requests.started then [.closeCamera] else []) ++
          [.openCamera s.requests.facing.toggled (s.requests.newest + 1)]) ?_ ?_ ?_ ?_ <;>
        cases started : s.requests.started <;>
        simp [request, swap, openRequest, submit, Plan.steer, Plan.opens, Plan.closes, plan,
          CameraService.cameraCount, few, started, Outlook.execute]
  | setViewport viewport =>
    by_cases same : s.viewport = viewport
    · simp [request, setViewport, Plan.steer, plan, same]
    · cases slot : s.slot with
      | none =>
        refine plan_eq [] ?_ ?_ ?_ ?_ <;>
          simp [request, setViewport, same, session?, slot, Plan.steer, plan]
      | some camera =>
        refine plan_eq [.configurePreview camera.session] ?_ ?_ ?_ ?_ <;>
          simp [request, setViewport, same, session?, slot, submit, Plan.steer, plan,
            Outlook.execute]
  | turnDevice turn => exact plan_eq [.turnDevice turn] rfl rfl rfl rfl
  | tiltDevice angle =>
    by_cases none : angle < 0
    · simp [request, tiltDevice, Plan.steer, none]
    · refine plan_eq [.tiltDevice (angle.toUInt32 % 360)] ?_ ?_ ?_ ?_ <;>
        simp [request, tiltDevice, submit, Plan.steer, none, plan]
  | focusOn tap =>
    have focuses : (s.request (.focusOn tap)).queue = s.queue ++ [] ∨
        (s.request (.focusOn tap)).queue = s.queue ++ [.applyFocus] := by
      simp only [request, focusOn, submit]
      repeat' (first | exact .inl (List.append_nil _).symm | exact .inr rfl | split)
    have requests : (s.request (.focusOn tap)).requests = s.requests := by
      simp only [request, focusOn, submit]
      repeat' (first | rfl | split)
    have viewport : (s.request (.focusOn tap)).viewport = s.viewport := by
      simp only [request, focusOn, submit]
      repeat' (first | rfl | split)
    rcases focuses with none | focuses
    · exact plan_eq [] none requests viewport rfl
    · exact plan_eq [.applyFocus] focuses requests viewport rfl
  | takePicture | setListener | clearListener | drop =>
    refine plan_eq [] ?_ ?_ ?_ rfl <;>
      simp only [List.append_nil, request, takePicture, setListener, clearListener, drop] <;>
      repeat' (first | rfl | split)
  | subscribe => exact plan_eq [] (List.append_nil _).symm rfl rfl rfl
  | barrier => exact plan_eq [.barrier] rfl rfl rfl rfl

theorem steer_of_other (cameras : List CameraSpec) (p : Plan) {r : Request}
    (other : r.steers = false) : p.steer cameras r = p := by
  cases r with
  | start | pause | swap | setViewport | turnDevice | tiltDevice => cases other
  | _ => rfl

/-- The plan after a run follows from the requests that were made. -/
theorem plan_of_run? {moves : List Move} (h : s.Steady cameras) (complete : Complete cameras)
    (calm : ∀ m ∈ moves, m.calm = true) (run : s.run? moves = some t) :
    t.Steady cameras ∧
      t.plan = (moves.filterMap Move.steering?).foldl (Plan.steer cameras) s.plan := by
  induction moves generalizing s with
  | nil =>
    cases run
    exact ⟨h, rfl⟩
  | cons m rest ih =>
    obtain ⟨allowed, run⟩ := run?_cons_eq_some.1 run
    obtain ⟨steady, planned⟩ := ih (h.move (calm m (by simp)) allowed)
      (fun other mem => calm other (by simp [mem])) run
    refine ⟨steady, planned.trans ?_⟩
    cases m with
    | request r =>
      rw [move, plan_request, h.cameras]
      cases steers : r.steers with
      | true => simp [Move.steering?, steers]
      | false => simp [Move.steering?, steers, steer_of_other cameras _ steers]
    | setFaults faults =>
      have same : (s.move (.setFaults faults)).plan = s.plan :=
        plan_of_undisturbed ⟨rfl, rfl, rfl, rfl, rfl, rfl⟩ rfl rfl rfl rfl (.inl rfl)
      rw [same]
      rfl
    | task task =>
      rw [move, plan_step h complete allowed]
      rfl

/-- The preview size of the device that is open. -/
def openPreview? (s : CameraSystem (Simulator Ticket)) : Option Size :=
  s.slot.bind fun camera => s.service.devices[camera.device]?.map (·.preview)

/-- A system shows what a plan comes to. -/
structure Fulfils (s : CameraSystem (Simulator Ticket)) (p : Plan) : Prop where
  requests : s.requests = p.requests
  viewport : s.viewport = p.viewport
  state : s.state = p.outlook.state
  history : s.service.history = p.outlook.history
  opens : s.service.opens = p.outlook.history.length
  releases : s.service.releases + p.outlook.camera.toList.length = p.outlook.history.length
  orientation : s.orientation = p.outlook.orientation
  rotations : s.service.last?.map Fitting.rotations = p.outlook.rotations
  preview : s.viewport.isEmpty = false →
    s.preview = p.preview? s.settings.aspectTolerance ∧
      s.openPreview? = p.devicePreview? s.settings.aspectTolerance

/-- While a system is still held its executor ends only by a crash. -/
theorem AtRest.of_inUse {held : Option Nat} (rest : s.AtRest) (secured : s.Secured held)
    (inUse : s.inUse = true) : s.executor.stage = .idle ∨ s.executor.stage = .crashed := by
  rcases rest.between with idle | stopped | crashed
  · exact .inl idle
  · exact absurd (by simp [Ending, stopped]) (secured.not_ending (by simp [hasSenders, inUse]))
  · exact .inr crashed

/-- An executor that is about nothing works for the camera in the slot, with its preview as is. -/
theorem looks_of_settled (settled : s.executor.stage = .idle ∨ s.executor.stage = .crashed) :
    s.engaged? = s.slot ∧ s.aim = s.preview ∧ s.executor.stage.steps = [] ∧
      s.reached = s.slot.elim s.shut s.working := by
  rw [reached, engaged?, aim]
  rcases settled with stage | stage <;> rw [stage] <;> exact ⟨rfl, rfl, rfl, rfl⟩

theorem length_history (s : Simulator Ticket) : s.history.length = s.devices.length := by
  simp [Simulator.history]

theorem Secured.balance {held : Option Nat} (h : s.Secured held) :
    s.service.opens = s.service.history.length ∧
      s.service.releases + held.toList.length = s.service.history.length := by
  have opens := h.holds.opens
  have balance := h.holds.balance
  have openNow := h.holds.openNow
  rw [length_history]
  omega

/-- When the executor is through with no camera open, the system shows the outlook without one. -/
theorem Tuned.fulfils (h : s.Tuned)
    (settled : s.executor.stage = .idle ∨ s.executor.stage = .crashed) (secured : s.Secured none)
    (slot : s.slot = none) (state : s.state = .closed) (outlook : s.plan.outlook = s.shut) :
    s.Fulfils s.plan where
  requests := rfl
  viewport := rfl
  state := by
    rw [outlook]
    exact state
  history := by
    rw [outlook]
    rfl
  opens := by
    rw [outlook]
    exact secured.balance.1
  releases := by
    rw [outlook]
    exact secured.balance.2
  orientation := by
    rw [outlook]
    exact h.oriented.closed slot (by simp [state])
  rotations := by
    rw [outlook]
    rfl
  preview _ := by
    have closed := h.sized.closed slot (by simp [state])
    obtain ⟨-, aim, -⟩ := looks_of_settled settled
    rw [Plan.preview?, Plan.devicePreview?, outlook, openPreview?, slot, ← aim]
    exact ⟨closed, rfl⟩

/-- When nothing can make a step and a camera is open, it is set as the outlook has it. -/
theorem Steady.fulfils_open (h : s.Steady cameras) (rest : s.AtRest) (drained : s.queue = [])
    (settled : s.executor.stage = .idle ∨ s.executor.stage = .crashed) {camera : OpenCamera}
    (secured : s.Secured camera.device) (slot : s.slot = some camera) (state : s.state = .opened)
    (outlook : s.plan.outlook = s.working camera) : s.Fulfils s.plan := by
  have tuned := h.previewed.tuned
  obtain ⟨engaged, aim, through, -⟩ := looks_of_settled settled
  obtain ⟨f, fitted, open_⟩ := tuned.sized.spec (engaged.trans slot)
  obtain ⟨told, -⟩ := h.turned.rotations tuned.oriented through slot engaged fitted.last
  have preview (visible : s.viewport.isEmpty = false) :
      s.preview = s.plan.preview? s.settings.aspectTolerance := by
    have negotiated :=
      h.previewed.negotiated rest drained (by simp [hasSenders, h.inUse]) slot visible
    rw [Plan.preview?, outlook, open_, ← aim, negotiated.aim, negotiated?, fitted.capabilities]
    rfl
  have device (visible : s.viewport.isEmpty = false) :
      s.openPreview? = s.plan.devicePreview? s.settings.aspectTolerance := by
    obtain ⟨d, get, -⟩ := secured.holds.device
    cases (secured.holds.last? tuned.sized.newest get).symm.trans fitted.last
    have set := fitted.aims
    rw [through, aim, preview visible] at set
    rw [Plan.devicePreview?, openPreview?, slot, Option.bind_some, get, outlook, open_]
    exact congrArg some set
  exact {
    requests := rfl
    viewport := rfl
    state := by
      rw [outlook, Outlook.state, open_]
      exact state
    history := by
      rw [outlook]
      rfl
    opens := by
      rw [outlook]
      exact secured.balance.1
    releases := by
      rw [outlook, open_]
      exact secured.balance.2
    orientation := by
      rw [outlook, Outlook.orientation, open_, tuned.oriented.opened camera slot, fitted.sensor]
      rfl
    rotations := by
      rw [outlook, fitted.last]
      exact congrArg some told
    preview := fun visible => ⟨preview visible, device visible⟩ }

theorem Steady.fulfils (h : s.Steady cameras) (rest : s.AtRest) (drained : s.queue = []) :
    s.Fulfils s.plan := by
  have tuned := h.previewed.tuned
  obtain ⟨held, secured⟩ := tuned.sound.secured
  have settled := rest.of_inUse secured h.inUse
  have outlook : s.plan.outlook = s.slot.elim s.shut s.working := by
    rw [plan, drained]
    exact (looks_of_settled settled).2.2.2
  rcases secured.between rest.between with ⟨slot, state, rfl⟩ | ⟨camera, slot, state, rfl⟩
  · rw [slot] at outlook
    exact tuned.fulfils settled secured slot state outlook
  · rw [slot] at outlook
    exact h.fulfils_open rest drained settled secured slot state outlook

/-- Two systems that were asked for the same, in the same order, agree once they rest with no
command left, whenever their tasks made their steps, if each camera that can be asked for exists and
the hardware refuses nothing. -/
theorem schedule_independent {settings : Settings} {cameras : List CameraSpec} {capacity : Nat}
    {facing : Facing} {first second : List Move} (complete : Complete cameras)
    (calm : ∀ m ∈ first ++ second, m.calm = true)
    (same : first.filterMap Move.steering? = second.filterMap Move.steering?)
    (run : (ofCameras settings cameras capacity facing).run? first = some t)
    (run' : (ofCameras settings cameras capacity facing).run? second = some u)
    (rest : t.AtRest) (drained : t.queue = []) (rest' : u.AtRest) (drained' : u.queue = []) :
    t.requests = u.requests ∧ t.state = u.state ∧ t.service.history = u.service.history ∧
      t.service.opens = u.service.opens ∧ t.service.releases = u.service.releases ∧
      t.orientation = u.orientation ∧
      t.service.last?.map Fitting.rotations = u.service.last?.map Fitting.rotations ∧
      t.viewport = u.viewport ∧
      (t.viewport.isEmpty = false →
        t.preview = u.preview ∧ t.openPreview? = u.openPreview?) := by
  have fresh := steady_ofCameras settings cameras capacity facing
  obtain ⟨steady, planned⟩ := plan_of_run? fresh complete
    (fun m mem => calm m (List.mem_append_left _ mem)) run
  obtain ⟨steady', planned'⟩ := plan_of_run? fresh complete
    (fun m mem => calm m (List.mem_append_right _ mem)) run'
  have plan : u.plan = t.plan := by rw [planned, planned', same]
  have shows := steady.fulfils rest drained
  have shows' := steady'.fulfils rest' drained'
  rw [plan] at shows'
  have settings_eq : u.settings = t.settings := by
    have secured := secured_ofCameras settings cameras capacity facing
    rw [settings_of_run? secured run, settings_of_run? secured run']
  have viewport := shows.viewport.trans shows'.viewport.symm
  refine ⟨shows.requests.trans shows'.requests.symm, shows.state.trans shows'.state.symm,
    shows.history.trans shows'.history.symm, shows.opens.trans shows'.opens.symm, ?_,
    shows.orientation.trans shows'.orientation.symm,
    shows.rotations.trans shows'.rotations.symm, viewport, fun visible => ?_⟩
  · have releases := shows.releases
    have releases' := shows'.releases
    omega
  · obtain ⟨preview, device⟩ := shows.preview visible
    obtain ⟨preview', device'⟩ := shows'.preview (viewport ▸ visible)
    rw [settings_eq] at preview' device'
    exact ⟨preview.trans preview'.symm, device.trans device'.symm⟩

/-- A camera is opened, turned, swapped and tilted. All of it is asked for before any task makes a
step, or the tasks rest before anything more is asked for. -/
def askedAtOnce : List Move :=
  .flatten [
    [.request (.start .back), .request (.setViewport ⟨720, 1280⟩), .request (.turnDevice .quarter),
      .request .swap, .request (.tiltDevice 100)], turns 25,
    [.task (.preparation 1), .task (.preparation 2)], turns 5]

def askedOneByOne : List Move :=
  .flatten [
    [.request (.start .back)], turns 7, [.request (.setViewport ⟨720, 1280⟩)], turns 5,
    [.task (.preparation 1)], turns 1, [.request (.turnDevice .quarter)], turns 6,
    [.request .swap], turns 11, [.task (.preparation 2)], turns 5,
    [.request (.tiltDevice 100)], turns 1]

theorem schedule_independent_askedAtOnce :
    ∃ t u, (ofCameras {} Simulator.dual 64 .back).run? askedAtOnce = some t ∧
      (ofCameras {} Simulator.dual 64 .back).run? askedOneByOne = some u ∧
      t.AtRest ∧ u.AtRest ∧ t.state = .opened ∧ u.state = .opened ∧
      u.service.history = [.back, .front] ∧ u.service.opens = 2 ∧ u.service.releases = 1 ∧
      t.orientation = u.orientation ∧
      t.service.last?.map Fitting.rotations = u.service.last?.map Fitting.rotations ∧
      u.preview = some ⟨1920, 1080⟩ ∧ t.openPreview? = u.openPreview? := by
  have checked : ((ofCameras {} Simulator.dual 64 .back).run? askedAtOnce).any fun t =>
      t.state = .opened ∧ t.service.history = [.back, .front] ∧ t.service.opens = 2 ∧
        t.service.releases = 1 ∧ t.viewport = ⟨720, 1280⟩ ∧ t.preview = some ⟨1920, 1080⟩ ∧
        t.queue = [] ∧ ∀ task ∈ t.tasks, t.ready task = false := by
    decide +kernel
  have checked' : ((ofCameras {} Simulator.dual 64 .back).run? askedOneByOne).any fun u =>
      u.queue = [] ∧ ∀ task ∈ u.tasks, u.ready task = false := by
    decide +kernel
  obtain ⟨t, run, facts⟩ := Option.any_eq_true _ _ |>.1 checked
  obtain ⟨u, run', facts'⟩ := Option.any_eq_true _ _ |>.1 checked'
  obtain ⟨opened, history, opens, releases, viewport, preview, drained, unready⟩ :=
    of_decide_eq_true facts
  obtain ⟨drained', unready'⟩ := of_decide_eq_true facts'
  have rest : t.AtRest := atRest_of_tasks unready
  have rest' : u.AtRest := atRest_of_tasks unready'
  have complete : Complete Simulator.dual := by
    intro facing
    cases facing <;> decide
  obtain ⟨-, state, history', opens', releases', orientation, rotations, -, shown⟩ :=
    schedule_independent complete (by decide +kernel) (by decide +kernel) run run' rest drained
      rest' drained'
  obtain ⟨preview', device⟩ := shown (by rw [viewport]; decide)
  exact ⟨t, u, run, run', rest, rest', opened, state ▸ opened, history' ▸ history, opens' ▸ opens,
    releases' ▸ releases, orientation, rotations, preview' ▸ preview, device⟩

end CameraSystem

end Viewfinder
