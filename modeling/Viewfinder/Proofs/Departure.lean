import Viewfinder.Proofs.Roster

/-!
# After the last user has let go

When nobody holds the camera and nothing can make a step, the hardware has been released, unless a
capture still waits for a viewport, or the executor has crashed over a tap. Only a user could give
the capture a viewport, and as long as the job lives the executor keeps the camera open for it.
Whether it comes to that is settled when the last user lets go: no step of a task changes it
(`Waiting.step_iff`).
-/

namespace Viewfinder

namespace Simulator

variable {τ : Type} {s : Simulator τ}

/-- A frame is due for every ticket that waits on a running preview. -/
theorem Serves.due {ticket : τ} (h : s.Serves) (shows : s.Shows (· = true))
    (waits : ticket ∈ s.tickets) : ∃ i, i ∈ s.dueDevices := by
  obtain ⟨d, mem, eq⟩ := List.mem_filterMap.1 waits
  obtain ⟨unreleased, due⟩ := h d mem (by simp [eq])
  have due := due (shows d mem unreleased)
  obtain ⟨i, get⟩ := List.getElem?_of_mem mem
  obtain ⟨lt, -⟩ := List.getElem?_eq_some_iff.1 get
  exact ⟨i, List.mem_filter.2 ⟨List.mem_range.2 lt, by simp [get, due]⟩⟩

end Simulator

namespace CameraSystem

section

variable {σ : Type} [CameraService σ] {s : CameraSystem σ}

theorem mem_tasks_of_ready {t : Task} (ready : s.ready t = true) : t ∈ s.tasks := by
  cases t with
  | executor => simp [tasks]
  | preparation session =>
    simp only [CameraSystem.ready, Bool.and_eq_true, List.contains_iff_mem] at ready
    simp [tasks, ready.1]
  | job id =>
    simp only [CameraSystem.ready, Option.any_eq_true] at ready
    obtain ⟨j, found, -⟩ := ready
    have same : j.ticket.job = id := by simpa using List.find?_some found
    simp only [tasks, List.mem_append, List.mem_cons, List.mem_map]
    exact .inl (.inl (.inl (.inr ⟨j, List.mem_of_find?_eq_some found, by rw [same]⟩)))
  | bridge feed =>
    simp only [CameraSystem.ready, Option.any_eq_true] at ready
    obtain ⟨b, found, -⟩ := ready
    have same : b.feed = feed := by simpa using List.find?_some found
    simp only [tasks, List.mem_append, List.mem_map]
    exact .inl (.inl (.inr ⟨b, List.mem_of_find?_eq_some found, by rw [same]⟩))
  | delivery device =>
    simp only [CameraSystem.ready, List.contains_iff_mem] at ready
    simp [tasks, ready]
  | arrival job =>
    obtain ⟨sent, found⟩ := Option.isSome_iff_exists.1 ready
    have same : sent.ticket.job = job := by simpa using List.find?_some found
    simp only [tasks, List.mem_append, List.mem_map]
    exact .inr ⟨sent, List.mem_of_find?_eq_some found, by rw [same]⟩

/-- To see that a system rests it is enough to ask the tasks that it lists. -/
theorem atRest_of_tasks (rest : ∀ t ∈ s.tasks, s.ready t = false) : s.AtRest := by
  intro t
  cases ready : s.ready t with
  | false => rfl
  | true => exact absurd (rest t (mem_tasks_of_ready ready)) (by simp [ready])

/-- The first of the jobs has a task of its own. -/
theorem AtRest.head (rest : s.AtRest) {j : Job} {others : List Job} (jobs : s.jobs = j :: others) :
    s.jobReady j = false := by
  simpa [ready, job?, jobs] using rest (.job j.ticket.job)

end

/-! ## Captures that wait -/

/-- A capture of the session that is open waits for a viewport, and no command to close is on its
way. -/
structure Waiting {σ : Type} (s : CameraSystem σ) : Prop where
  viewport : s.viewport.isEmpty = true
  unclosed : .closeCamera ∉ s.queue
  job : ∃ j ∈ s.jobs, j.stage = .waiting ∧ s.session? = some j.ticket.session

theorem waiting_congr {σ : Type} {s t : CameraSystem σ} (viewport : t.viewport = s.viewport)
    (closes : .closeCamera ∈ t.queue ↔ .closeCamera ∈ s.queue) (jobs : t.jobs = s.jobs)
    (slot : t.slot = s.slot) : t.Waiting ↔ s.Waiting := by
  have session : t.session? = s.session? := by rw [session?, slot, session?]
  constructor
  · rintro ⟨empty, unclosed, job⟩
    exact ⟨viewport ▸ empty, mt closes.2 unclosed, jobs ▸ session ▸ job⟩
  · rintro ⟨empty, unclosed, job⟩
    exact ⟨viewport ▸ empty, mt closes.1 unclosed, by rw [jobs, session]; exact job⟩

theorem waiting_setFaults (s : CameraSystem (Simulator Ticket)) (faults : SimulatorFaults) :
    (s.move (.setFaults faults)).Waiting ↔ s.Waiting :=
  waiting_congr rfl Iff.rfl rfl rfl

theorem not_waiting_of_jobs {σ : Type} {s : CameraSystem σ}
    (others : ∀ j ∈ s.jobs, j.stage ≠ .waiting) : ¬s.Waiting := by
  rintro ⟨-, -, j, mem, waiting, -⟩
  exact others j mem waiting

theorem not_waiting_of_slot {σ : Type} {s : CameraSystem σ} (slot : s.slot = none) :
    ¬s.Waiting := by
  rintro ⟨-, -, j, -, -, session⟩
  simp [session?, slot] at session

/-! ## Rest -/

/-- The executor has stopped and no device is held any more. -/
structure Released (s : CameraSystem (Simulator Ticket)) : Prop where
  stopped : s.executor.stage = .stopped
  slot : s.slot = none
  openNow : s.service.openNow = 0
  balance : s.service.opens = s.service.releases

/-- The camera stays open for a capture that waits for a viewport. -/
structure Stranded (s : CameraSystem (Simulator Ticket)) : Prop where
  idle : s.executor.stage = .idle
  waiting : s.Waiting
  openNow : s.service.openNow = 1
  balance : s.service.opens = s.service.releases + 1

/-- The executor has crashed and left the camera open. -/
structure Deserted (s : CameraSystem (Simulator Ticket)) : Prop where
  crashed : s.executor.stage = .crashed
  slot : s.slot.isSome = true
  openNow : s.service.openNow = 1
  balance : s.service.opens = s.service.releases + 1

variable {s t : CameraSystem (Simulator Ticket)} {held : Option Nat}

theorem Secured.deserted (h : t.Secured held) (crashed : t.executor.stage = .crashed) :
    t.Deserted := by
  have custody := h.custody
  rw [crashed] at custody
  obtain ⟨camera, slot, -, rfl⟩ := custody
  have openNow : t.service.openNow = 1 := h.holds.openNow
  refine ⟨crashed, by simp [slot], openNow, ?_⟩
  have := h.holds.balance
  omega

theorem Secured.released (h : t.Secured held) (stopped : t.executor.stage = .stopped) :
    t.Released ∧ t.jobs = [] := by
  have custody := h.custody
  rw [stopped] at custody
  obtain ⟨slot, -, rfl⟩ := custody
  have openNow : t.service.openNow = 0 := h.holds.openNow
  obtain ⟨unsent, -⟩ := h.ending (by simp [Ending, stopped])
  refine ⟨⟨stopped, slot, openNow, ?_⟩, ?_⟩
  · have := h.holds.balance
    omega
  · simp only [hasSenders, Bool.or_eq_false_iff, Bool.not_eq_false', List.isEmpty_iff] at unsent
    exact unsent.2

/-- A job that cannot go on waits for a viewport, as its frame would be due by now. -/
theorem Attended.waits (h : t.Attended)
    (settled : t.executor.stage = .idle ∨ t.executor.stage = .crashed) (rest : t.AtRest)
    {j : Job} (blocked : t.jobReady j = false) : j.stage = .waiting := by
  cases stage : j.stage with
  | waiting => rfl
  | requested =>
    have unsent : t.sent? j.ticket.job = none := by
      simpa [ready] using rest (.arrival j.ticket.job)
    have waits : j.ticket ∈ t.service.tickets := by
      simpa [jobReady, stage, CameraService.tickets, unsent] using blocked
    have shows : t.service.Shows (· = true) := by
      have shows := h.shows
      rcases settled with stage | stage <;> rwa [stage] at shows
    obtain ⟨i, due⟩ := h.serves.due shows waits
    have undelivered := rest (.delivery i)
    simp only [ready, CameraService.due, List.contains_eq_mem,
      decide_eq_false_iff_not] at undelivered
    exact absurd due undelivered
  | ready | received shot | processing shot => simp [jobReady, stage] at blocked

theorem AtRest.between (rest : t.AtRest) :
    t.executor.stage = .idle ∨ t.executor.stage = .stopped ∨ t.executor.stage = .crashed := by
  have unready : t.executorReady = false := rest .executor
  unfold executorReady at unready
  split at unready
  · next stage => exact .inl stage
  · next stage => exact .inr (.inl stage)
  · next stage => exact .inr (.inr stage)
  · cases unready

/-- When nothing can make a step, a job under way waits for the viewport of the session that is
open. -/
theorem Secured.blocked (h : t.Secured held) (attended : t.Attended) (rest : t.AtRest) {j : Job}
    {others : List Job} (jobs : t.jobs = j :: others) :
    j.stage = .waiting ∧ t.state = .opened ∧ t.session? = some j.ticket.session ∧
      t.viewport.isEmpty = true := by
  have settled : t.executor.stage = .idle ∨ t.executor.stage = .crashed := by
    rcases rest.between with idle | stopped | crashed
    · exact .inl idle
    · simp [(h.released stopped).2] at jobs
    · exact .inr crashed
  have blocked := rest.head jobs
  have waiting := attended.waits settled rest blocked
  -- the session of the job is not over, or the job would end
  have asleep : t.wakes j.ticket.session = false := by simpa [jobReady, waiting] using blocked
  simp only [wakes, isOver, Bool.or_eq_false_iff, bne_eq_false_iff_eq, Bool.not_eq_false'] at asleep
  obtain ⟨⟨state, session⟩, viewport⟩ := asleep
  exact ⟨waiting, state, session, viewport⟩

/-- A system that rests in idleness, though nobody holds it, is kept by a job that waits. -/
theorem Secured.stranded (h : t.Secured held) (attended : t.Attended) (dropped : t.inUse = false)
    (rest : t.AtRest) (idle : t.executor.stage = .idle) : t.Stranded := by
  have unready : t.executorReady = false := rest .executor
  simp only [executorReady, idle, Bool.or_eq_false_iff, Bool.not_eq_false',
    List.isEmpty_iff] at unready
  obtain ⟨queue, senders⟩ := unready
  have busy : t.jobs ≠ [] := by simpa [hasSenders, dropped] using senders
  obtain ⟨j, others, jobs⟩ := List.exists_cons_of_ne_nil busy
  obtain ⟨waiting, state, session, viewport⟩ := h.blocked attended rest jobs
  obtain ⟨-, closed, -⟩ | ⟨camera, slot, -, rfl⟩ := h.between (.inl idle)
  · simp [closed] at state
  · have openNow : t.service.openNow = 1 := h.holds.openNow
    refine ⟨idle, ⟨viewport, by simp [queue], j, by simp [jobs], waiting, session⟩, openNow, ?_⟩
    have := h.holds.balance
    omega

/-- Nobody is left who could do anything about it: what is to come are other faults. -/
theorem Stranded.run? {u : CameraSystem (Simulator Ticket)} {moves : List Move} (h : t.Stranded)
    (dropped : t.inUse = false) (rest : t.AtRest) (run : t.run? moves = some u) :
    u.Stranded ∧ u.AtRest := by
  refine (run?_keeps (P := fun s => s.inUse = false ∧ s.Stranded ∧ s.AtRest) ?_ run
    ⟨dropped, h, rest⟩).2
  rintro s (r | faults | task) ⟨dropped, h, rest⟩ enabled
  · simp [CameraSystem.enabled, dropped] at enabled
  · have waiting := (waiting_setFaults s faults).2 h.waiting
    refine ⟨dropped, ⟨h.idle, waiting, h.openNow, h.balance⟩, fun task => ?_⟩
    rw [← rest task]
    cases task <;> rfl
  · cases (rest task).symm.trans enabled

/-! ## Steps after the last user has let go -/

/-- The executor takes no camera away from a capture but by a command to close, and gives it none:
the sessions to come are others. -/
theorem Waiting.turn_iff (h : s.Sound) (turn : Turn s t) (same : SameCaptures s t) :
    t.Waiting ↔ s.Waiting := by
  obtain ⟨held, secured⟩ := h.secured
  cases turn with
  | take c rest idle queue =>
    by_cases closes : c = .closeCamera
    · subst closes
      refine iff_of_false (not_waiting_of_slot (slot_beginClose _ false)) fun waiting => ?_
      exact waiting.unclosed (by simp [queue])
    · refine waiting_congr same.viewport ?_ same.jobs (slot_execute _ closes)
      rw [(execute_sameErrands _ c).queue]
      simp [queue, Ne.symm closes]
  | finish idle queue unsent =>
    simp only [hasSenders, Bool.or_eq_false_iff, Bool.not_eq_false', List.isEmpty_iff] at unsent
    refine iff_of_false (not_waiting_of_jobs ?_) (not_waiting_of_jobs ?_)
    · simp [same.jobs, unsent.2]
    · simp [unsent.2]
  | missing facing request stage absent | refused facing request stage present =>
    refine waiting_congr same.viewport ?_ same.jobs ?_ <;> rw [failOpen, withdraw_eq]
    · exact Iff.rfl
    · rfl
  | acquired facing request spec capabilities o stage present =>
    exact waiting_congr same.viewport Iff.rfl same.jobs rfl
  | called routine next step rest stage steps =>
    exact waiting_congr same.viewport Iff.rfl same.jobs rfl
  | installed routine facing request camera o stage steps =>
    refine iff_of_false ?_ (not_waiting_of_slot (secured.of_installing stage).1)
    rintro ⟨-, -, j, mem, -, session⟩
    -- the session begins only now, and the job is older
    have next := h.numbered.begins camera.session (by rw [stage]; rfl)
    have begun : camera.session = j.ticket.session := Option.some.inj session
    have known := h.roster.session_le (same.jobs ▸ mem)
    omega
  | forgotten routine facing last stage steps =>
    have slot := (secured.of_closing stage).1
    exact iff_of_false (not_waiting_of_slot slot) (not_waiting_of_slot slot)
  | worked routine next works stage steps =>
    have returned := s.resume_returned routine works
    exact waiting_congr same.viewport (by rw [returned.queue]) same.jobs returned.slot

/-- A job that makes a step waits no more. -/
theorem jobStep_unwaiting {j : Job} (jobs : s.jobs = [j]) (ready : s.jobReady j = true) :
    ∀ k ∈ (s.jobStep j).jobs, k.stage ≠ .waiting := by
  have ended : ∀ k ∈ (s.endJob j.ticket.job).jobs, k.stage ≠ .waiting := by
    simp [endJob, removeJob, jobs]
  unfold CameraSystem.jobStep
  cases stage : j.stage with
  | waiting =>
    have awake : s.wakes j.ticket.session = true := by simpa [jobReady, stage] using ready
    dsimp only
    split
    · exact ended
    · next going =>
      split
      · next empty => simp [wakes, going, empty] at awake
      · simp [setJobStage, jobs]
  | ready =>
    dsimp only
    unfold requestFrame
    split
    · exact ended
    · split <;> simp [setJobStage, endJob, removeJob, jobs]
  | requested =>
    dsimp only
    split
    · exact ended
    · next unready => exact absurd ready unready
  | received shot => simp [setJobStage, jobs]
  | processing shot =>
    dsimp only
    split <;> exact ended

/-- A capture that waits for a viewport in the session that is open can make no step. -/
theorem Waiting.blocked (h : s.Waiting) (secured : s.Secured held) {j : Job} (jobs : s.jobs = [j]) :
    s.jobReady j = false := by
  obtain ⟨viewport, -, k, mem, waiting, session⟩ := h
  rw [jobs, List.mem_singleton] at mem
  subst mem
  obtain ⟨camera, slot, -⟩ := Option.map_eq_some_iff.1 session
  obtain ⟨state, -⟩ := secured.of_slot slot
  simp [jobReady, waiting, wakes, isOver, state, session, viewport]

/-- No step of a task changes whether a capture waits for a viewport. -/
theorem Waiting.step_iff (h : s.Sound) {task : Task} (ready : s.ready task = true) :
    (s.step task).Waiting ↔ s.Waiting := by
  cases task with
  | executor =>
    obtain ⟨held, secured⟩ := h.secured
    exact Waiting.turn_iff h (secured.turn ready) s.executorStep_sameCaptures
  | preparation session =>
    simp only [step, prepare, submit]
    split
    · exact waiting_congr rfl Iff.rfl rfl rfl
    · exact waiting_congr rfl (by simp) rfl rfl
  | job id =>
    simp only [CameraSystem.ready, Option.any_eq_true] at ready
    obtain ⟨j, found, ready⟩ := ready
    have jobs := h.roster.job_eq found
    obtain ⟨held, secured⟩ := h.secured
    simp only [step, found]
    refine iff_of_false (not_waiting_of_jobs (jobStep_unwaiting jobs ready)) fun waiting => ?_
    rw [waiting.blocked secured jobs] at ready
    cases ready
  | bridge feed =>
    simp only [step]
    cases s.bridge? feed <;> exact waiting_congr rfl Iff.rfl rfl rfl
  | delivery device =>
    simp only [step, send]
    split <;> exact waiting_congr rfl Iff.rfl rfl rfl
  | arrival job =>
    obtain ⟨sent, found⟩ := Option.isSome_iff_exists.1 ready
    have jobs := (h.roster.of_sent? found).1
    refine iff_of_false (not_waiting_of_jobs ?_) (not_waiting_of_jobs (by simp [jobs]))
    simp only [step, arrive, found, handOver]
    repeat' (first | simp [setJobStage, jobs]; done | split)

/-- When nobody holds the camera, no move changes whether a capture waits for a viewport. -/
theorem unused_of_run? {moves : List Move} (h : s.Sound) (dropped : s.inUse = false)
    (run : s.run? moves = some t) : t.Sound ∧ t.inUse = false ∧ (t.Waiting ↔ s.Waiting) := by
  refine run?_keeps (P := fun u => u.Sound ∧ u.inUse = false ∧ (u.Waiting ↔ s.Waiting)) ?_ run
    ⟨h, dropped, Iff.rfl⟩
  rintro u m ⟨sound, unused, same⟩ enabled
  refine ⟨sound.move enabled, ?_⟩
  cases m with
  | request r => simp [CameraSystem.enabled, unused] at enabled
  | setFaults faults => exact ⟨unused, (waiting_setFaults u faults).trans same⟩
  | task task =>
    exact ⟨(inUse_step u task).trans unused, (Waiting.step_iff sound enabled).trans same⟩

/-- Once every user has let go and nothing can make a step, the hardware is released exactly if no
capture was left that waits for a viewport and the executor has not crashed; otherwise the camera
stays open. -/
theorem released_iff_not_waiting {settings : Settings} {cameras : List CameraSpec} {capacity : Nat}
    {facing : Facing} {before after : List Move} {s : CameraSystem (Simulator Ticket)}
    (run : (ofCameras settings cameras capacity facing).run? before = some s)
    (dropped : s.inUse = false) (later : s.run? after = some t) (rest : t.AtRest) :
    (t.Released ↔ ¬s.Waiting ∧ t.executor.stage ≠ .crashed) ∧
      (t.Released ∨ t.Stranded ∨ t.Deserted) := by
  obtain ⟨sound, unused, same⟩ := unused_of_run? (sound_of_run? run) dropped later
  obtain ⟨held, secured⟩ := sound.secured
  rw [← same]
  rcases rest.between with idle | stopped | crashed
  · have stranded := secured.stranded sound.attended unused rest idle
    refine ⟨iff_of_false (fun released => ?_) fun free => free.1 stranded.waiting,
      .inr (.inl stranded)⟩
    cases idle.symm.trans released.stopped
  · obtain ⟨released, jobs⟩ := secured.released stopped
    exact ⟨iff_of_true released ⟨not_waiting_of_jobs (by simp [jobs]), by simp [stopped]⟩,
      .inl released⟩
  · refine ⟨iff_of_false (fun released => ?_) fun free => free.2 crashed,
      .inr (.inr (secured.deserted crashed))⟩
    cases crashed.symm.trans released.stopped

/-- A picture is asked for before there is a viewport, and the camera is paused and let go. -/
def pausedPicture : List Move :=
  .flatten [[.request (.start .back)], turns 7,
    [.request (.takePicture ⟨0, 0, 100, 100⟩), .request .pause, .request .drop]]

theorem released_pausedPicture :
    ∃ s t, (ofCameras {} Simulator.singleBack 64 .back).run? pausedPicture = some s ∧
      s.inUse = false ∧ s.jobs ≠ [] ∧
      s.run? (List.replicate 4 (.task .executor) ++
        [.task (.job 1), .task (.preparation 1), .task .executor]) = some t ∧
      t.AtRest ∧ t.Released := by
  obtain ⟨s, t, run, dropped, jobs, closes, later, unready, stopped⟩ :
      ∃ s t, (ofCameras {} Simulator.singleBack 64 .back).run? pausedPicture = some s ∧
        s.inUse = false ∧ s.jobs ≠ [] ∧ s.queue = [.closeCamera] ∧
        s.run? (List.replicate 4 (.task .executor) ++
          [.task (.job 1), .task (.preparation 1), .task .executor]) = some t ∧
        (∀ task ∈ t.tasks, t.ready task = false) ∧ t.executor.stage = .stopped :=
    ⟨_, _, rfl, rfl, List.cons_ne_nil _ _, rfl, rfl, by decide, rfl⟩
  have rest : t.AtRest := atRest_of_tasks unready
  have closing : ¬s.Waiting := fun waiting => waiting.unclosed (by simp [closes])
  exact ⟨s, t, run, dropped, jobs, later, rest,
    (released_iff_not_waiting run dropped later rest).1.2 ⟨closing, by simp [stopped]⟩⟩

/-- A picture is asked for before there is a viewport, and the camera is let go. -/
def strandedPicture : List Move :=
  .flatten [[.request (.start .back)], turns 7,
    [.request (.takePicture ⟨0, 0, 100, 100⟩), .request .drop]]

theorem strandedPicture_keeps_camera :
    ∃ t, (ofCameras {} Simulator.singleBack 64 .back).run? strandedPicture = some t ∧
      t.inUse = false ∧ t.AtRest ∧ t.executor.stage ≠ .stopped ∧ t.slot.isSome = true ∧
      t.service.openNow = 1 ∧ t.service.opens = 1 ∧ t.service.releases = 0 := by
  obtain ⟨t, run, dropped, unready, idle, slot, counts⟩ :
      ∃ t, (ofCameras {} Simulator.singleBack 64 .back).run? strandedPicture = some t ∧
        t.inUse = false ∧ (∀ task ∈ t.tasks, t.ready task = false) ∧ t.executor.stage = .idle ∧
        t.slot.isSome = true ∧
        t.service.openNow = 1 ∧ t.service.opens = 1 ∧ t.service.releases = 0 :=
    ⟨_, rfl, rfl, by decide, rfl, rfl, rfl, rfl, rfl⟩
  exact ⟨t, run, dropped, atRest_of_tasks unready, by simp [idle], slot, counts⟩

end CameraSystem

end Viewfinder
