import Viewfinder.Proofs.Completion

/-!
# One capture at a time

The progress that is shown is that of the only job there is, and it goes one way: from the request
to the frame, to the development and back to idle, or back to idle from where a job can be dropped
(`Follows`). A frame that arrives marks the job that has asked for it or none. Captures are numbered
as they are accepted, and their images come in that order (`single_flight`).
-/

namespace Viewfinder

/-- How the progress of captures can change. -/
inductive CaptureState.Follows : CaptureState → CaptureState → Prop
  | accepted : Follows .idle .frameRequested
  | received : Follows .frameRequested .frameReceived
  | begun : Follows .frameReceived .processing
  | dropped : Follows .frameRequested .idle
  | finished : Follows .processing .idle

theorem JobStage.capture_ne_idle (stage : JobStage) : stage.capture ≠ .idle := by
  cases stage <;> exact CaptureState.noConfusion

namespace CameraSystem

section

variable {σ : Type} [CameraService σ]

omit [CameraService σ] in
theorem takePicture_iff (s : CameraSystem σ) (visible : Rect) :
    (s.takePicture visible).1 = true ↔
      s.state = .opened ∧ s.slot.isSome = true ∧ s.capture = .idle := by
  cases state : s.state <;> cases slot : s.slot <;> cases capture : s.capture <;>
    simp [takePicture, session?, state, slot, capture]

omit [CameraService σ] in
/-- A refused capture changes nothing. -/
theorem takePicture_refused (s : CameraSystem σ) (visible : Rect)
    (refused : (s.takePicture visible).1 = false) : (s.takePicture visible).2 = s := by
  rcases s.takePicture_cases visible with ⟨eq, -⟩ | ⟨session, -, -, -, -, eq⟩
  · rw [eq]
  · rw [eq] at refused
    cases refused

theorem requestFrame_accepted (s : CameraSystem σ) (ticket : Ticket) :
    (s.requestFrame ticket).accepted = s.accepted := by
  simp only [requestFrame, endJob, removeJob, setJobStage]
  repeat' (first | rfl | split)

theorem jobStep_accepted (s : CameraSystem σ) (j : Job) : (s.jobStep j).accepted = s.accepted := by
  unfold jobStep
  dsimp only
  repeat' (first | rfl | exact s.requestFrame_accepted _ | split)

variable [FaultInjection σ] {s : CameraSystem σ} {m : Move}

/-- What neither asks for a picture nor lets a job or a frame go on leaves captures alone. -/
theorem captures_of_other (request : ∀ visible, m ≠ .request (.takePicture visible))
    (job : ∀ id, m ≠ .task (.job id)) (arrival : ∀ job, m ≠ .task (.arrival job)) :
    (s.move m).capture = s.capture ∧ (s.move m).accepted = s.accepted := by
  cases m with
  | request r =>
    cases r with
    | takePicture visible => exact absurd rfl (request visible)
    | _ =>
      refine ⟨?_, ?_⟩ <;>
        simp only [move, CameraSystem.request, start, openRequest, pause, swap, setViewport,
          turnDevice, tiltDevice, focusOn, setListener, clearListener, barrier, drop, submit] <;>
        repeat' (first | rfl | split)
  | setFaults faults => exact ⟨rfl, rfl⟩
  | task t =>
    cases t with
    | executor =>
      have same := s.executorStep_sameCaptures
      exact ⟨same.capture, same.accepted⟩
    | preparation session =>
      simp only [move, step, prepare, submit]
      split <;> exact ⟨rfl, rfl⟩
    | job id => exact absurd rfl (job id)
    | bridge feed =>
      simp only [move, step]
      cases s.bridge? feed <;> exact ⟨rfl, rfl⟩
    | delivery device =>
      simp only [move, step, send]
      split <;> exact ⟨rfl, rfl⟩
    | arrival id => exact absurd rfl (arrival id)

/-- The captures that are accepted are counted. -/
theorem accepted_move : (s.move m).accepted = s.accepted + (s.takes? m).toList.length := by
  by_cases asks : ∃ visible, m = .request (.takePicture visible)
  · obtain ⟨visible, rfl⟩ := asks
    rcases s.takePicture_cases visible with ⟨eq, none⟩ | ⟨session, -, -, -, accepts, eq⟩
    · simp [move, CameraSystem.request, eq, none]
    · simp [move, CameraSystem.request, eq, accepts]
  · have none : s.takes? m = none := by
      cases taken : s.takes? m with
      | none => rfl
      | some ticket =>
        obtain ⟨camera, rfl, -⟩ := takes?_eq_some taken
        exact absurd ⟨_, rfl⟩ asks
    rw [none]
    by_cases own : ∃ id, m = .task (.job id)
    · obtain ⟨id, rfl⟩ := own
      simp only [move, step]
      cases s.job? id with
      | none => rfl
      | some j => exact s.jobStep_accepted j
    · by_cases arrives : ∃ job, m = .task (.arrival job)
      · obtain ⟨job, rfl⟩ := arrives
        simp only [move, step, arrive, handOver, setJobStage]
        repeat' (first | rfl | split)
      · exact (captures_of_other (fun visible eq => asks ⟨visible, eq⟩)
          (fun id eq => own ⟨id, eq⟩) fun job eq => arrives ⟨job, eq⟩).2

end

variable {s t : CameraSystem (Simulator Ticket)} {held : Option Nat}

/-- A job that goes on shows it, and one that ends is dropped before its frame has come or has
developed it. -/
theorem Roster.follows_jobStep (h : s.Roster) (secured : s.Secured held) {j : Job}
    (jobs : s.jobs = [j]) :
    (s.jobStep j).capture = s.capture ∨ s.capture.Follows (s.jobStep j).capture := by
  obtain ⟨shown, -⟩ := h.only jobs
  have drops (early : j.stage.capture = .frameRequested) :
      s.capture.Follows (s.endJob j.ticket.job).capture := by
    rw [shown, early]
    exact .dropped
  unfold CameraSystem.jobStep
  cases stage : j.stage with
  | waiting =>
    dsimp only
    split
    · exact .inr (drops (by rw [stage]; rfl))
    · split <;> exact .inl rfl
  | ready =>
    dsimp only
    by_cases open_ : s.session? = some j.ticket.session
    · obtain ⟨camera, slot, same⟩ := Option.map_eq_some_iff.1 open_
      rw [secured.requestFrame_eq slot same]
      exact .inl rfl
    · rw [requestFrame_of_ne s open_]
      exact .inr (drops (by rw [stage]; rfl))
  | requested =>
    dsimp only
    split
    · exact .inr (drops (by rw [stage]; rfl))
    · exact .inl rfl
  | received shot =>
    refine .inr ?_
    rw [shown, stage]
    exact .begun
  | processing shot =>
    refine .inr ?_
    rw [shown, stage]
    dsimp only
    split <;> exact .finished

/-- A frame that arrives marks the job that asked for it, which is the one under way, or none. -/
theorem Roster.marks (h : s.Roster) (job : Nat) :
    ((s.arrive job).capture = s.capture ∧ (s.arrive job).jobs = s.jobs) ∨
    ∃ ticket shot, ticket.job = job ∧ s.capture = .frameRequested ∧
      s.jobs = [⟨ticket, .requested⟩] ∧ ticket.job = s.accepted ∧
      s.session? = some ticket.session ∧ (s.arrive job).capture = .frameReceived ∧
      (s.arrive job).jobs = [⟨ticket, .received shot⟩] := by
  cases found : s.sent? job with
  | none => exact .inl ⟨by simp [CameraSystem.arrive, found], by simp [CameraSystem.arrive, found]⟩
  | some sent =>
    rcases s.arrive_cases found with
      ⟨-, -, eq⟩ | ⟨o, open_, -, -, ⟨-, eq⟩ | ⟨crop, -, eq⟩⟩
    · exact .inl ⟨by rw [eq], by rw [eq]⟩
    · exact .inl ⟨by rw [eq], by rw [eq]⟩
    · obtain ⟨jobs, -⟩ := h.of_sent? found
      obtain ⟨shown, number, -⟩ := h.only jobs
      have own : sent.ticket.job = job := by simpa using List.find?_some found
      refine .inr ⟨sent.ticket, ⟨sent.frame, o.output, crop⟩, own, shown, jobs, number, open_, ?_,
        ?_⟩
      · rw [eq]
        rfl
      · rw [eq]
        simp [CameraSystem.setJobStage, jobs]

theorem Sound.follows_move (h : s.Sound) {m : Move} :
    (s.move m).capture = s.capture ∨ s.capture.Follows (s.move m).capture := by
  obtain ⟨held, secured⟩ := h.secured
  by_cases asks : ∃ visible, m = .request (.takePicture visible)
  · obtain ⟨visible, rfl⟩ := asks
    rcases s.takePicture_cases visible with ⟨eq, -⟩ | ⟨session, -, -, idle, -, eq⟩
    · exact .inl (by simp [CameraSystem.move, CameraSystem.request, eq])
    · refine .inr ?_
      rw [idle, CameraSystem.move, CameraSystem.request, eq]
      exact .accepted
  by_cases own : ∃ id, m = .task (.job id)
  · obtain ⟨id, rfl⟩ := own
    simp only [CameraSystem.move, step]
    cases found : s.job? id with
    | none => exact .inl rfl
    | some j => exact h.roster.follows_jobStep secured (h.roster.job_eq found)
  by_cases arrives : ∃ job, m = .task (.arrival job)
  · obtain ⟨job, rfl⟩ := arrives
    rcases h.roster.marks job with ⟨same, -⟩ | ⟨ticket, shot, -, requested, -, -, -, received, -⟩
    · exact .inl same
    · refine .inr ?_
      rw [requested, CameraSystem.move, step, received]
      exact .received
  exact .inl (captures_of_other (fun visible eq => asks ⟨visible, eq⟩)
    (fun id eq => own ⟨id, eq⟩) fun job eq => arrives ⟨job, eq⟩).1

/-- There is a job if and only if the progress that is shown is not idle. -/
theorem Roster.idle_iff (h : s.Roster) : s.capture = .idle ↔ s.jobs = [] := by
  refine ⟨h.jobs_of_idle, fun none => ?_⟩
  rcases h.job with ⟨-, idle⟩ | ⟨j, only, -⟩
  · exact idle
  · cases none.symm.trans only

/-- What is shown is the progress of the job that was accepted last. -/
theorem Roster.shown (h : s.Roster) :
    ∀ j ∈ s.jobs, s.capture = j.stage.capture ∧ j.ticket.job = s.accepted := by
  intro j mem
  rcases h.job with ⟨none, -⟩ | ⟨k, only, shown, number, -⟩
  · simp [none] at mem
  · rw [only, List.mem_singleton] at mem
    subst mem
    exact ⟨shown, number⟩

theorem Roster.busy_iff (h : s.Roster) : s.capture ≠ .idle ↔ ∃ j, s.jobs = [j] := by
  rcases h.job with ⟨none, idle⟩ | ⟨j, only, shown, -⟩
  · simp [none, idle]
  · simp [only, shown, j.stage.capture_ne_idle]

section

variable {settings : Settings} {cameras : List CameraSpec} {capacity : Nat} {facing : Facing}
  {moves : List Move}

/-- Captures are numbered from one in the order in which they are accepted. -/
theorem numbers_of_run? (run : (ofCameras settings cameras capacity facing).run? moves = some t) :
    ((ofCameras settings cameras capacity facing).along takes? moves).map (·.job) =
      List.range' 1 t.accepted := by
  refine run?_notes takes? (P := fun u taken => taken.map (·.job) = List.range' 1 u.accepted) ?_
    run rfl
  intro u m taken numbered _
  rw [accepted_move, List.map_append, numbered]
  cases takes : u.takes? m with
  | none => simp
  | some ticket =>
    obtain ⟨camera, -, -, -, -, number, -⟩ := takes?_eq_some takes
    simp [List.range'_concat, number, Nat.add_comm]

theorem Captured.rising_images {taken : List Ticket} {handed : List (Ticket × Arrival)}
    (h : s.Captured taken handed) : s.images.Pairwise (·.job < ·.job) := by
  obtain ⟨done, split_, developed⟩ := h.developed
  rw [developed, List.pairwise_filterMap]
  have once := h.once
  rw [split_] at once
  refine (List.pairwise_append.1 once).1.imp ?_
  intro a b below image developed image' developed'
  obtain ⟨-, -, -, job, -⟩ := develop_eq_some.1 developed
  obtain ⟨-, -, -, job', -⟩ := develop_eq_some.1 developed'
  rw [job, job']
  exact below

/-- A capture is accepted just when a camera is open and none is under way, and what is refused
changes nothing. There is one job as long as the progress that is shown is not idle, the one that
was accepted last, and none otherwise. The progress goes one way with each move. A frame that is
sent changes nothing yet, and one that arrives marks the job that has asked for it, which is the
newest, or changes nothing, however late it is. Captures are numbered from one as they are accepted,
and each image is that of an accepted capture, one for a capture at most, in rising order. -/
theorem single_flight
    (run : (ofCameras settings cameras capacity facing).run? moves = some t) :
    (∀ visible,
      ((t.takePicture visible).1 = true ↔
        t.state = .opened ∧ t.slot.isSome = true ∧ t.capture = .idle) ∧
      ((t.takePicture visible).1 = false → (t.takePicture visible).2 = t)) ∧
    (t.capture ≠ .idle ↔ ∃ j, t.jobs = [j]) ∧ (t.capture = .idle ↔ t.jobs = []) ∧
    (∀ j ∈ t.jobs, t.capture = j.stage.capture ∧ j.ticket.job = t.accepted) ∧
    (∀ m, t.enabled m = true →
      (t.move m).capture = t.capture ∨ t.capture.Follows (t.move m).capture) ∧
    (∀ device, (t.send device).capture = t.capture ∧ (t.send device).jobs = t.jobs) ∧
    (∀ job,
      ((t.arrive job).capture = t.capture ∧ (t.arrive job).jobs = t.jobs) ∨
      ∃ ticket shot, ticket.job = job ∧ t.capture = .frameRequested ∧
        t.jobs = [⟨ticket, .requested⟩] ∧ ticket.job = t.accepted ∧
        t.session? = some ticket.session ∧ (t.arrive job).capture = .frameReceived ∧
        (t.arrive job).jobs = [⟨ticket, .received shot⟩]) ∧
    ((ofCameras settings cameras capacity facing).along takes? moves).map (·.job) =
      List.range' 1 t.accepted ∧
    t.images.Pairwise (·.job < ·.job) ∧
    ∀ image ∈ t.images, ∃ ticket ∈ (ofCameras settings cameras capacity facing).along takes? moves,
      image.job = ticket.job := by
  have sound := sound_of_run? run
  have captured := captured_of_run? run
  refine ⟨fun visible => ?_, sound.roster.busy_iff, sound.roster.idle_iff, sound.roster.shown,
    fun m _ => sound.follows_move, fun device => ?_, sound.roster.marks, numbers_of_run? run,
    captured.rising_images, ?_⟩
  · exact ⟨t.takePicture_iff visible, t.takePicture_refused visible⟩
  · unfold send
    split <;> exact ⟨rfl, rfl⟩
  · intro image mem
    obtain ⟨handover, reached, developed⟩ := captured.mem_images mem
    obtain ⟨-, -, -, job, -⟩ := develop_eq_some.1 developed
    exact ⟨handover.1, captured.known handover reached, job⟩

end

/-- Of four captures the first gives an image, the second loses its frame as the camera is paused,
the third gives an image when the camera is open again, and the frame for the fourth is on its
way. -/
def takenAgain : List Move :=
  let job (id n : Nat) : List Move := List.replicate n (.task (.job id))
  let take : List Move := [.request (.takePicture ⟨0, 0, 2, 4⟩)]
  .flatten [
    [.request (.setViewport ⟨2, 4⟩), .request (.start .back)], turns 6,
    [.task (.preparation 1)], turns 2,
    take, job 1 2, [.task (.delivery 0), .task (.arrival 1)], job 1 2,
    take, job 2 2, [.request .pause], turns 4, job 2 1,
    [.request (.start .back)], turns 6,
    take, job 3 2, [.task (.delivery 1), .task (.arrival 3)], job 3 2,
    take, job 4 2, [.task (.delivery 1)]]

theorem single_flight_takenAgain :
    ∃ t, (ofCameras {} tinyCamera 64 .back).run? takenAgain = some t ∧
      (∃ j, t.jobs = [j]) ∧ (t.takePicture ⟨0, 0, 2, 4⟩).2 = t ∧
      (t.arrive 4).capture = .frameReceived ∧
      ((ofCameras {} tinyCamera 64 .back).along takes? takenAgain).map (·.job) = [1, 2, 3, 4] ∧
      t.images.map (·.job) = [1, 3] ∧ t.images.Pairwise (·.job < ·.job) := by
  have checked : ((ofCameras {} tinyCamera 64 .back).run? takenAgain).any fun t =>
      t.capture = .frameRequested ∧ t.accepted = 4 ∧ t.images.map (·.job) = [1, 3] ∧
        (t.arrive 4).capture = .frameReceived := by
    decide +kernel
  obtain ⟨t, run, facts⟩ := Option.any_eq_true _ _ |>.1 checked
  obtain ⟨requested, accepted, images, received⟩ := of_decide_eq_true facts
  obtain ⟨accepts, busy, -, -, -, -, -, numbers, rising, -⟩ := single_flight run
  have refused : (t.takePicture ⟨0, 0, 2, 4⟩).1 = false := by
    rw [Bool.eq_false_iff]
    intro accepted
    cases requested.symm.trans ((accepts _).1.1 accepted).2.2
  rw [accepted] at numbers
  exact ⟨t, run, busy.1 (by simp [requested]), (accepts _).2 refused, received, numbers, images,
    rising⟩

end CameraSystem

end Viewfinder
