import Viewfinder.Proofs.Approach
import Viewfinder.Proofs.Handover

/-!
# A capture in peace

As long as nothing but focusing is left to do for the executor, the camera stays open and a capture
that is under way gets its frame and is published (`Shooting.step`).
-/

namespace Viewfinder

/-- By whichever right angle the camera is turned, what `visible` shows of the frame makes a
still. -/
def Frame.MakesStills (f : Frame) (visible : Rect) (quality : UInt8) : Prop :=
  ∀ rotation ∈ [(0 : UInt32), 90, 180, 270], ∃ crop still,
    visiblePart f.size visible rotation = some crop ∧ f.still rotation crop quality = .ok still

namespace CameraSystem

section

variable {σ : Type} {s t : CameraSystem σ}

/-- The camera stays open: no command that waits closes it. -/
structure Lingers (s : CameraSystem σ) (camera : OpenCamera) : Prop where
  slot : s.slot = some camera
  biding : ∃ before, s.Biding before [] ∧ .closeCamera ∉ before

variable [CameraService σ]

theorem barriers_execute (s : CameraSystem σ) {c : Command} (other : c ≠ .barrier) :
    (s.execute c).barriers = s.barriers := by
  cases c with
  | barrier => exact absurd rfl other
  | _ =>
    simp only [execute, beginClose, configurePreview, announce, refreshOrientation, applyFocus]
    repeat' (first | rfl | split)

/-- Others than the executor pass no barrier. -/
theorem barriers_of_other (s : CameraSystem σ) {task : Task} (other : task ≠ .executor) :
    (s.step task).barriers = s.barriers := by
  cases task with
  | executor => exact absurd rfl other
  | preparation session =>
    simp only [step, prepare, submit]
    split <;> rfl
  | job id =>
    simp only [step]
    cases s.job? id with
    | none => rfl
    | some j =>
      simp only [Option.elim, jobStep, requestFrame]
      repeat' (first | rfl | split)
  | bridge feed =>
    simp only [step]
    cases s.bridge? feed <;> rfl
  | delivery device =>
    simp only [step, send]
    split <;> rfl
  | arrival job =>
    simp only [step, arrive, handOver]
    repeat' (first | rfl | split)

/-- Without a capture under way none begins by itself. -/
theorem jobs_of_none (jobs : s.jobs = []) (task : Task) : (s.step task).jobs = [] := by
  cases task with
  | executor => exact s.executorStep_sameCaptures.jobs.trans jobs
  | preparation session =>
    simp only [step, prepare, submit]
    split <;> exact jobs
  | job id => simp [step, job?, jobs]
  | bridge feed =>
    simp only [step]
    cases s.bridge? feed <;> exact jobs
  | delivery device =>
    simp only [step, send]
    split <;> exact jobs
  | arrival job =>
    simp only [step, arrive, handOver, setJobStage]
    repeat' (first | exact jobs | split)
    simp [jobs]

end

variable {s t : CameraSystem (Simulator Ticket)} {held : Option Nat} {cameras : List CameraSpec}

theorem images_of_none (h : s.Sound) (jobs : s.jobs = []) {task : Task}
    (ready : s.ready task = true) : (s.step task).images = s.images := by
  obtain ⟨held, secured⟩ := h.secured
  have none : s.develops? (.task task) = none := by
    cases task <;> simp [develops?, job?, jobs]
  have images := images_move (m := .task task) secured ready
  rwa [none, Option.toList_none, List.append_nil] at images

/-! ## What is left for the executor -/

section

variable {before rest : List Command}

theorem Biding.undisturbed_step (h : s.Biding before rest) {task : Task}
    (ready : s.ready task = true) (other : task ≠ .executor) :
    (s.step task).Biding before rest := by
  have same := s.step_undisturbed other
  cases task with
  | executor => exact absurd rfl other
  | preparation session => simp [CameraSystem.ready, h.preparing] at ready
  | job id =>
    obtain ⟨j, found, -⟩ := Option.any_eq_true _ _ |>.1 ready
    simp only [CameraSystem.step, found] at same ⊢
    exact h.of_same same (s.jobStep_sameDemand j)
  | bridge feed =>
    obtain ⟨b, found, -⟩ := Option.any_eq_true _ _ |>.1 ready
    simp only [CameraSystem.step, found] at same ⊢
    exact h.of_same same (s.bridgeStep_sameDemand b).1
  | delivery device => exact h.of_same same (s.send_sameDemand device).1
  | arrival job => exact h.of_same same (s.arrive_sameDemand job).1

/-- Whatever task makes a step, the executor goes on with what comes before the rest, unless it
crashes. -/
theorem Biding.step (h : s.Biding before rest) (secured : s.Secured held)
    (senders : s.hasSenders = true) {task : Task} (ready : s.ready task = true)
    (uncrashed : (s.step task).executor.stage ≠ .crashed) :
    (∃ c later, before = c :: later ∧ s.step task = { s with queue := later ++ rest }.execute c ∧
      (s.step task).Biding later rest) ∨
    ((s.step task).Biding before rest ∧ (s.step task).slot = s.slot ∧
      (s.step task).barriers = s.barriers) ∨
    (task = .executor ∧ before = [] ∧ s.executor.stage = .idle ∧ ∃ c later, rest = c :: later ∧
      s.step task = { s with queue := later }.execute c) := by
  by_cases own : task = .executor
  · subst own
    rcases h.of_turn senders uncrashed (secured.turn ready) with
      ⟨c, later, rfl, eq, biding⟩ | ⟨biding, slot, barriers⟩ | ⟨none, idle, c, later, left, eq⟩
    · exact .inl ⟨c, later, rfl, eq, biding⟩
    · exact .inr (.inl ⟨biding, slot, barriers⟩)
    · exact .inr (.inr ⟨rfl, none, idle, c, later, left, eq⟩)
  · exact .inr (.inl ⟨h.undisturbed_step ready own, (s.step_undisturbed own).slot,
      s.barriers_of_other own⟩)

theorem Biding.silent (h : s.Biding before rest)
    (other : ∀ session, .configurePreview session ∉ rest) (secured : s.Secured held) {task : Task}
    (ready : s.ready task = true) {fresh : List Event}
    (published : (s.step task).published = s.published ++ fresh) :
    ∀ e ∈ fresh, e.isReady = false := by
  by_cases own : task = .executor
  · subst own
    exact h.silent_of_turn other (secured.turn ready) published
  · exact silent_of_other own published

end

theorem Quiet.other (h : s.Quiet) (senders : s.hasSenders = true) {task : Task}
    (ready : s.ready task = true) : task ≠ .executor := by
  rintro rfl
  simp [CameraSystem.ready, executorReady, h.idle, h.queue, senders] at ready

/-- Nothing is left to do but for bridges and frames that are due or on their way. -/
theorem Quiet.step (h : s.Quiet) (senders : s.hasSenders = true) (jobs : s.jobs = [])
    {task : Task} (ready : s.ready task = true) :
    (s.step task).Quiet ∧ (s.step task).published = s.published := by
  cases task with
  | executor => exact absurd rfl (h.other senders ready)
  | preparation session => simp [CameraSystem.ready, h.preparing] at ready
  | job id => simp [CameraSystem.ready, job?, jobs] at ready
  | bridge feed =>
    obtain ⟨b, found, -⟩ := Option.any_eq_true _ _ |>.1 ready
    obtain ⟨demand, published⟩ := s.bridgeStep_sameDemand b
    simp only [CameraSystem.step, found]
    exact ⟨h.of_same (s.bridgeStep_undisturbed b) demand, published⟩
  | delivery device =>
    obtain ⟨demand, published⟩ := s.send_sameDemand device
    exact ⟨h.of_same (s.send_undisturbed device) demand, published⟩
  | arrival job =>
    obtain ⟨demand, published⟩ := s.arrive_sameDemand job
    exact ⟨h.of_same (s.arrive_undisturbed job) demand, published⟩

/-! ## The camera stays open -/

section

variable {camera : OpenCamera}

theorem Lingers.step (h : s.Lingers camera) (secured : s.Secured held)
    (senders : s.hasSenders = true) {task : Task} (ready : s.ready task = true)
    (uncrashed : (s.step task).executor.stage ≠ .crashed) : (s.step task).Lingers camera := by
  obtain ⟨slot, before, biding, unclosed⟩ := h
  rcases biding.step secured senders ready uncrashed with
    ⟨c, later, rfl, eq, biding⟩ | ⟨biding, same, -⟩ | ⟨-, -, -, c, later, none, -⟩
  · rw [List.mem_cons, not_or] at unclosed
    refine ⟨?_, later, biding, unclosed.2⟩
    rw [eq, slot_execute _ (Ne.symm unclosed.1)]
    exact slot
  · exact ⟨same.trans slot, before, biding, unclosed⟩
  · cases none

theorem Secured.engaged?_of_slot (h : s.Secured held) (slot : s.slot = some camera) :
    s.engaged? = some camera := by
  have custody := h.custody
  rw [slot] at custody
  rw [engaged?, slot]
  unfold Stage.camera?
  split
  · next stage =>
    rw [stage] at custody
    cases custody.1
  · rfl

/-- The device of the open camera has the preview size that was negotiated. -/
theorem Lingers.preview (h : s.Lingers camera) (steady : s.Steady cameras)
    (rooted : s.executor.stage.Rooted) (visible : s.viewport.isEmpty = false) {size : Size}
    (chosen : s.negotiated? camera = some size) :
    ∃ f, s.Fitted camera f ∧ f.preview = size := by
  obtain ⟨slot, before, biding, -⟩ := h
  have tuned := steady.previewed.tuned
  have aside := biding.stage
  have negotiated : s.Negotiated camera := by
    rcases steady.previewed.abreast camera slot visible (by simp [hasSenders, steady.inUse]) with
      prepares | waits | negotiated
    · simp [biding.preparing] at prepares
    · rw [biding.queue, List.append_nil] at waits
      cases biding.aside _ waits
    · exact negotiated
  obtain ⟨held, secured⟩ := tuned.sound.secured
  obtain ⟨f, fitted⟩ := tuned.sized.fitted camera (secured.engaged?_of_slot slot)
  have aims := fitted.aims
  rw [negotiated.aim, chosen] at aims
  refine ⟨f, fitted, ?_⟩
  -- the calls that are left, if any, set no preview size
  have sizeless : ∀ step ∈ s.executor.stage.steps, ∀ other, step.call ≠ .setPreviewSize other := by
    cases stage : s.executor.stage with
    | native routine next =>
      intro step mem other call
      rw [stage] at rooted aside
      obtain ⟨resized, rfl, -⟩ := (rooted.purpose mem).1 other call
      cases aside
    | idle | opening | stopped | crashed => simp [Stage.steps]
  have spares : Spares (DeviceCall.resizes f.spec.capabilities.previewSizes)
      s.executor.stage.steps := by
    intro step mem current
    have other := sizeless step mem
    cases call : step.call with
    | setPreviewSize size => exact absurd call (other size)
    | _ => rfl
  exact (spares.meets aims :)

/-! ## The capture -/

/-- How far the only capture of a session has come, of what the viewport shows in `visible`; `shown`
are the images before its own. -/
inductive Shooting (s : CameraSystem (Simulator Ticket)) (camera : OpenCamera) (visible : Rect)
    (shown : List CapturedImage) : Prop
  | asking (job : Nat) (stage : JobStage)
    (jobs : s.jobs = [⟨⟨job, camera.session, visible⟩, stage⟩])
    (early : stage = .waiting ∨ stage = .ready) (images : s.images = shown)
  | requested (job : Nat) (jobs : s.jobs = [⟨⟨job, camera.session, visible⟩, .requested⟩])
    (left : ⟨job, camera.session, visible⟩ ∈ s.service.tickets) (images : s.images = shown)
  | sent (job : Nat) (frame : Frame)
    (jobs : s.jobs = [⟨⟨job, camera.session, visible⟩, .requested⟩])
    (inFlight : s.inFlight = [⟨⟨job, camera.session, visible⟩, frame⟩])
    (makes : frame.MakesStills visible s.settings.jpegQuality) (images : s.images = shown)
  | shot (ticket : Ticket) (stage : JobStage) (shot : Shot) (still : Still)
    (jobs : s.jobs = [⟨ticket, stage⟩]) (reached : stage.shot? = some shot)
    (makes : shot.frame.still shot.rotation shot.crop s.settings.jpegQuality = .ok still)
    (images : s.images = shown)
  | done (image : CapturedImage) (jobs : s.jobs = []) (images : s.images = shown ++ [image])

variable {visible : Rect} {shown : List CapturedImage}

theorem Shooting.of_same (h : s.Shooting camera visible shown) (jobs : t.jobs = s.jobs)
    (images : t.images = s.images) (tickets : t.service.tickets = s.service.tickets)
    (inFlight : t.inFlight = s.inFlight) (settings : t.settings = s.settings) :
    t.Shooting camera visible shown := by
  cases h with
  | asking job stage only early none =>
    exact .asking job stage (jobs.trans only) early (images.trans none)
  | requested job only left none =>
    exact .requested job (jobs.trans only) (tickets ▸ left) (images.trans none)
  | sent job frame only flies makes none =>
    exact .sent job frame (jobs.trans only) (inFlight.trans flies) (settings ▸ makes)
      (images.trans none)
  | shot ticket stage shot still only reached makes none =>
    exact .shot ticket stage shot still (jobs.trans only) reached (settings ▸ makes)
      (images.trans none)
  | done image none one => exact .done image (jobs.trans none) (images.trans one)

/-- Once there is an image more the capture is over. -/
theorem Shooting.ended (h : s.Shooting camera visible shown) (more : s.images ≠ shown) :
    s.jobs = [] ∧ s.images.length = shown.length + 1 := by
  cases h with
  | asking job stage jobs early same | requested job jobs left same
  | sent job frame jobs inFlight makes same
  | shot ticket stage shot still jobs reached makes same => exact absurd same more
  | done image jobs images =>
    exact ⟨jobs, by rw [images, List.length_append, List.length_singleton]⟩

/-- A capture that waits for its frame has left its ticket, or the frame is on its way. -/
theorem Shooting.of_requested (h : s.Shooting camera visible shown) {ticket : Ticket}
    (jobs : s.jobs = [⟨ticket, .requested⟩]) :
    ticket.session = camera.session ∧ ticket.visible = visible ∧ s.images = shown ∧
      (ticket ∈ s.service.tickets ∨ ∃ frame, s.inFlight = [⟨ticket, frame⟩] ∧
        frame.MakesStills visible s.settings.jpegQuality) := by
  cases h with
  | asking job stage only early =>
    cases only.symm.trans jobs
    rcases early with early | early <;> cases early
  | requested job only left none =>
    cases only.symm.trans jobs
    exact ⟨rfl, rfl, none, .inl left⟩
  | sent job frame only inFlight makes none =>
    cases only.symm.trans jobs
    exact ⟨rfl, rfl, none, .inr ⟨frame, inFlight, makes⟩⟩
  | shot _ _ _ _ only reached =>
    cases only.symm.trans jobs
    cases reached
  | done image only => cases only.symm.trans jobs

/-- Whatever frame is due makes stills. -/
def Develops (s : CameraSystem (Simulator Ticket)) (visible : Rect) : Prop :=
  ∀ device ticket frame, (s.service.fire device).1 = some (ticket, frame) →
    frame.MakesStills visible s.settings.jpegQuality

theorem Shooting.send (h : s.Shooting camera visible shown) (sound : s.Sound)
    (develops : s.Develops visible) (device : Nat) :
    (s.send device).Shooting camera visible shown := by
  have images : (s.send device).images = s.images := by
    rw [CameraSystem.images, (s.send_sameDemand device).2, CameraSystem.images]
  rcases s.send_cases device with ⟨-, missed, eq⟩ | ⟨⟨job, session, shows⟩, frame, -, served, eq⟩
  · rw [eq] at images ⊢
    exact h.of_same rfl images (Simulator.tickets_fire_eq device missed) rfl rfl
  · -- the frame is for this capture, whose ticket was left till now
    have jobs := sound.served served
    obtain ⟨rfl, rfl, none, -⟩ := h.of_requested jobs
    obtain ⟨held, secured⟩ := sound.secured
    obtain ⟨left, -⟩ := secured.holds.fire_some sound.attended.serves (Prod.ext served rfl)
    have still : s.inFlight = [] := List.eq_nil_iff_forall_not_mem.2 fun sent mem => by
      rw [(sound.roster.sent sent mem).2] at left
      cases left
    rw [eq] at images ⊢
    refine .sent job frame jobs ?_ (develops device _ frame served) (images.trans none)
    show s.inFlight ++ [_] = _
    rw [still, List.nil_append]

theorem Shooting.arrive (h : s.Shooting camera visible shown) (tuned : s.Tuned)
    (slot : s.slot = some camera)
    (turned : ∀ o, s.orientation = some o → o.output ∈ [(0 : UInt32), 90, 180, 270]) {job : Nat}
    {sent : SentFrame} (found : s.sent? job = some sent) :
    (s.arrive job).Shooting camera visible shown := by
  have images : (s.arrive job).images = s.images := by
    rw [CameraSystem.images, (s.arrive_sameDemand job).2, CameraSystem.images]
  have mem := List.mem_of_find?_eq_some found
  obtain ⟨jobs, untaken⟩ := tuned.sound.roster.sent sent mem
  obtain ⟨session, rfl, none, left | ⟨frame, inFlight, makes⟩⟩ := h.of_requested jobs
  · simp [untaken] at left
  · rw [inFlight, List.mem_singleton] at mem
    obtain rfl : sent.frame = frame := congrArg SentFrame.frame mem
    have open_ : s.session? = some sent.ticket.session := by simp [session?, slot, session]
    have orientation := tuned.oriented.opened camera slot
    rcases s.arrive_cases found with ⟨-, missed, -⟩ | ⟨o, -, oriented, -, outcome⟩
    · simp [open_, orientation] at missed
    · obtain ⟨crop, still, cropped, made⟩ := makes o.output (turned o oriented)
      rcases outcome with ⟨uncropped, -⟩ | ⟨crop', cropped', eq⟩
      · cases uncropped.symm.trans cropped
      · obtain rfl := Option.some.inj (cropped'.symm.trans cropped)
        rw [eq] at images ⊢
        refine .shot sent.ticket (.received ⟨sent.frame, o.output, crop'⟩)
          ⟨sent.frame, o.output, crop'⟩ still ?_ rfl made (images.trans none)
        simp [setJobStage, jobs]

theorem Shooting.jobStep (h : s.Shooting camera visible shown) (secured : s.Secured held)
    (slot : s.slot = some camera) (viewport : s.viewport.isEmpty = false) {id : Nat} {j : Job}
    (found : s.job? id = some j) (ready : s.jobReady j = true) :
    (s.jobStep j).Shooting camera visible shown := by
  have published := s.published_jobStep found
  have mem : j ∈ s.jobs := List.mem_of_find?_eq_some found
  have images : (s.jobStep j).images =
      s.images ++ (s.develops? (.task (.job id))).toList := by
    rw [CameraSystem.images, published, List.filterMap_append, CameraSystem.images]
    cases s.develops? (.task (.job id)) <;> rfl
  cases h with
  | asking job stage jobs early none =>
    rw [jobs, List.mem_singleton] at mem
    subst mem
    obtain ⟨opened, rfl⟩ := secured.of_slot slot
    rcases early with rfl | rfl
    · have lasts : s.isOver camera.session = false := by simp [isOver, opened, session?, slot]
      have eq : s.jobStep ⟨⟨job, camera.session, visible⟩, .waiting⟩ =
          s.setJobStage job .ready := by
        simp [CameraSystem.jobStep, lasts, viewport]
      rw [eq]
      refine .asking job .ready ?_ (.inr rfl) none
      simp [setJobStage, jobs]
    · have eq : s.jobStep ⟨⟨job, camera.session, visible⟩, .ready⟩ =
          s.requestFrame ⟨job, camera.session, visible⟩ := by
        simp only [CameraSystem.jobStep]
      rw [eq, secured.requestFrame_eq slot rfl]
      refine .requested job ?_ (secured.holds.mem_tickets_requestFrame _) none
      simp [setJobStage, jobs]
  | requested job jobs left =>
    rw [jobs, List.mem_singleton] at mem
    subst mem
    simp [jobReady, CameraService.tickets, left] at ready
  | sent job frame jobs inFlight =>
    rw [jobs, List.mem_singleton] at mem
    subst mem
    simp [jobReady, sent?, inFlight] at ready
  | shot ticket stage shot still jobs reached makes none =>
    rw [jobs, List.mem_singleton] at mem
    subst mem
    cases stage with
    | waiting | ready | requested => cases reached
    | received taken =>
      cases reached
      refine .shot ticket (.processing shot) shot still ?_ rfl makes none
      simp [CameraSystem.jobStep, setJobStage, jobs]
    | processing taken =>
      cases reached
      have eq : s.jobStep ⟨ticket, .processing shot⟩ = (s.endJob ticket.job).publish
          (.imageCaptured ⟨ticket.job, still, shot.rotation⟩) := by
        simp only [CameraSystem.jobStep, makes]
      rw [eq]
      refine .done ⟨ticket.job, still, shot.rotation⟩ ?_ ?_
      · simp [publish, endJob, removeJob, jobs]
      · rw [images_publish, ← none]
        rfl
  | done image jobs => simp [jobs] at mem

/-- Whatever task makes a step, the capture gets on. -/
theorem Shooting.step (h : s.Shooting camera visible shown) (tuned : s.Tuned)
    (lingers : s.Lingers camera) (viewport : s.viewport.isEmpty = false)
    (turned : ∀ o, s.orientation = some o → o.output ∈ [(0 : UInt32), 90, 180, 270])
    (develops : s.Develops visible) {task : Task} (ready : s.ready task = true) :
    (s.step task).Shooting camera visible shown := by
  obtain ⟨held, secured⟩ := tuned.sound.secured
  have slot := lingers.slot
  cases task with
  | executor =>
    have turn := secured.turn ready
    have kept := s.executorStep_sameCaptures
    exact h.of_same kept.jobs (images_of_turn turn) (tickets_of_turn_eq secured turn slot)
      kept.inFlight (settings_turn turn)
  | preparation session =>
    obtain ⟨before, biding, -⟩ := lingers.biding
    simp [CameraSystem.ready, biding.preparing] at ready
  | job id =>
    obtain ⟨j, found, ready⟩ := Option.any_eq_true _ _ |>.1 ready
    simp only [CameraSystem.step, found]
    exact h.jobStep secured slot viewport found ready
  | bridge feed =>
    obtain ⟨b, found, -⟩ := Option.any_eq_true _ _ |>.1 ready
    have images : (s.bridgeStep b).images = s.images := by
      rw [CameraSystem.images, (s.bridgeStep_sameDemand b).2, CameraSystem.images]
    simp only [CameraSystem.step, found]
    exact h.of_same rfl images rfl rfl rfl
  | delivery device => exact h.send tuned.sound develops device
  | arrival job =>
    obtain ⟨sent, found⟩ := Option.isSome_iff_exists.1 ready
    exact h.arrive tuned slot turned found

/-- As long as the image has not come there is a task that can make a step. -/
theorem Shooting.ready (h : s.Shooting camera visible shown) (sound : s.Sound)
    (viewport : s.viewport.isEmpty = false) (undone : s.images = shown) :
    ∃ task, s.ready task = true := by
  obtain ⟨held, secured⟩ := sound.secured
  by_contra none
  have rest : s.AtRest := fun task => Bool.eq_false_iff.2 fun ready => none ⟨task, ready⟩
  have blocked {j : Job} (jobs : s.jobs = [j]) : False := by
    obtain ⟨-, -, -, hidden⟩ := secured.blocked sound.attended rest jobs
    cases viewport.symm.trans hidden
  cases h with
  | asking _ _ jobs | requested _ jobs | sent _ _ jobs | shot _ _ _ _ jobs => exact blocked jobs
  | done image jobs images => simp [undone] at images

end

end CameraSystem

end Viewfinder
