import Viewfinder.Proofs.Announcement
import Viewfinder.Proofs.Handover

/-!
# Every capture is accounted for

Of all captures that a run has accepted, either a frame has reached the job, or the job is under way
in its session, or the session is over; and of all frames that have reached a job, all but that of
the job under way are developed. `Captured` says so of the two lists that a run leaves behind, and
each move keeps it.
-/

namespace Viewfinder.CameraSystem

variable {s t : CameraSystem (Simulator Ticket)} {held : Option Nat} {taken : List Ticket}
  {handed : List (Ticket × Arrival)}

/-- The frame for a ticket is still to come. -/
def Asked (s : CameraSystem (Simulator Ticket)) (ticket : Ticket) : Prop :=
  ticket ∈ s.service.tickets ∨ ∃ sent ∈ s.inFlight, sent.ticket = ticket

theorem Unasked.not_asked (h : s.Unasked) (ticket : Ticket) : ¬s.Asked ticket := by
  rintro (waits | ⟨sent, mem, -⟩)
  · simp [h.tickets] at waits
  · simp [h.inFlight] at mem

/-- Only the job under way has asked for a frame. -/
theorem Roster.jobs_of_asked (h : s.Roster) {ticket : Ticket} (asked : s.Asked ticket) :
    s.jobs = [⟨ticket, .requested⟩] := by
  rcases asked with waits | ⟨sent, mem, rfl⟩
  · exact h.tickets ticket waits
  · exact (h.sent sent mem).1

theorem Roster.ticket_eq (h : s.Roster) {mine other : Ticket}
    (jobs : s.jobs = [⟨mine, .requested⟩]) (asked : s.Asked other) : other = mine := by
  simpa using (h.jobs_of_asked asked).symm.trans jobs

/-- A job has no frame and can still get one. -/
structure Expects (s : CameraSystem (Simulator Ticket)) (j : Job) : Prop where
  unanswered : j.stage.shot? = none
  asked : j.stage = .requested → s.Asked j.ticket

/-- What has become of the captures that were accepted, `taken`, and of the frames that have reached
a job, `handed`. -/
structure Captured (s : CameraSystem (Simulator Ticket)) (taken : List Ticket)
    (handed : List (Ticket × Arrival)) : Prop where
  rising : taken.Pairwise (·.job < ·.job)
  counted : ∀ ticket ∈ taken, ticket.job ≤ s.accepted ∧ ticket.session ≤ s.executor.sessions
  current : ∀ j ∈ s.jobs, j.ticket ∈ taken
  known : ∀ handover ∈ handed, handover.1 ∈ taken
  once : handed.Pairwise (·.1.job < ·.1.job)
  fresh : ∀ j ∈ s.jobs, s.Expects j → ∀ handover ∈ handed, handover.1.job < j.ticket.job
  cropped : ∀ j ∈ s.jobs, ∀ shot, j.stage.shot? = some shot →
    shot.arrival.crop? j.ticket.visible = some shot.crop
  developed : ∃ done, handed = done ++ s.shooting ∧
    s.images = done.filterMap (develop s.settings.jpegQuality)
  served : ∀ ticket ∈ taken, ticket ∈ handed.map Prod.fst ∨
    (∃ j ∈ s.jobs, j.ticket = ticket ∧ s.Expects j) ∨ s.Gone ticket.session

theorem shooting_of_only {σ : Type} {s : CameraSystem σ} {j : Job} (jobs : s.jobs = [j]) :
    s.shooting = (j.stage.shot?.map fun shot => (j.ticket, shot.arrival)).toList := by
  rw [shooting, jobs]
  cases shot : j.stage.shot? <;> simp [shot]

/-- What is asked for in `t` was asked for in `s`, and is asked for as long as its session lasts. -/
structure KeepsAsked (s t : CameraSystem (Simulator Ticket)) : Prop where
  before : ∀ ticket, t.Asked ticket → s.Asked ticket
  after : ∀ ticket, s.Asked ticket → ticket.session ≤ s.executor.sessions →
    t.session? = some ticket.session → t.Asked ticket

theorem KeepsAsked.of_eq (tickets : t.service.tickets = s.service.tickets)
    (inFlight : t.inFlight = s.inFlight) : KeepsAsked s t := by
  have same (ticket : Ticket) : t.Asked ticket ↔ s.Asked ticket := by
    rw [Asked, Asked, tickets, inFlight]
  exact ⟨fun ticket => (same ticket).1, fun ticket asked _ _ => (same ticket).2 asked⟩

theorem Captured.of_same (h : s.Captured taken handed) (jobs : t.jobs = s.jobs)
    (accepted : t.accepted = s.accepted) (images : t.images = s.images)
    (settings : t.settings = s.settings)
    (sessions : s.executor.sessions ≤ t.executor.sessions)
    (gone : ∀ session, s.Gone session → t.Gone session) (asked : KeepsAsked s t) :
    t.Captured taken handed where
  rising := h.rising
  counted ticket mem := by
    obtain ⟨number, session⟩ := h.counted ticket mem
    exact ⟨accepted ▸ number, Nat.le_trans session sessions⟩
  current := by
    rw [jobs]
    exact h.current
  known := h.known
  once := h.once
  fresh j mem expects := by
    rw [jobs] at mem
    exact h.fresh j mem
      ⟨expects.unanswered, fun requested => asked.before _ (expects.asked requested)⟩
  cropped := by
    rw [jobs]
    exact h.cropped
  developed := by
    rw [shooting, jobs, images, settings]
    exact h.developed
  served ticket mem := by
    rw [jobs]
    rcases h.served ticket mem with reached | ⟨j, busy, rfl, expects⟩ | lapsed
    · exact .inl reached
    · have begun := (h.counted _ mem).2
      by_cases open_ : t.session? = some j.ticket.session
      · exact .inr (.inl ⟨j, busy, rfl, expects.unanswered,
          fun requested => asked.after _ (expects.asked requested) begun open_⟩)
      · exact .inr (.inr ⟨Nat.le_trans begun sessions, open_⟩)
    · exact .inr (.inr (gone _ lapsed))

theorem Captured.of_undisturbed (h : s.Captured taken handed) (same : Undisturbed s t)
    (jobs : t.jobs = s.jobs) (accepted : t.accepted = s.accepted) (images : t.images = s.images)
    (asked : KeepsAsked s t) : t.Captured taken handed :=
  h.of_same jobs accepted images same.settings (by rw [same.executor])
    (fun _ gone => gone.of_undisturbed same) asked

/-- A capture is accepted when none is under way. -/
theorem Captured.take (h : s.Captured taken handed) (numbered : s.Numbered)
    (same : Undisturbed s t) (jobs : s.jobs = []) {session : Nat} {visible : Rect}
    (open_ : s.session? = some session) (images : t.images = s.images)
    (accepted : t.accepted = s.accepted + 1)
    (added : t.jobs = [⟨⟨s.accepted + 1, session, visible⟩, .waiting⟩]) :
    t.Captured (taken ++ [⟨s.accepted + 1, session, visible⟩]) handed := by
  have begun : session ≤ s.executor.sessions := by
    obtain ⟨camera, slot, rfl⟩ := Option.map_eq_some_iff.1 open_
    exact Nat.le_of_eq (numbered.slot camera slot)
  refine ⟨?_, ?_, ?_, ?_, h.once, ?_, ?_, ?_, ?_⟩
  · refine List.pairwise_append.2 ⟨h.rising, List.pairwise_singleton _ _, ?_⟩
    intro ticket mem other new
    obtain rfl := List.mem_singleton.1 new
    exact Nat.lt_succ_of_le (h.counted ticket mem).1
  · intro ticket mem
    rw [accepted, same.executor]
    rcases List.mem_append.1 mem with old | new
    · obtain ⟨number, session⟩ := h.counted ticket old
      exact ⟨by omega, session⟩
    · obtain rfl := List.mem_singleton.1 new
      exact ⟨Nat.le_refl _, begun⟩
  · simp [added]
  · intro handover mem
    exact List.mem_append_left _ (h.known handover mem)
  · intro j mem _ handover reached
    rw [added, List.mem_singleton] at mem
    subst mem
    exact Nat.lt_succ_of_le (h.counted _ (h.known handover reached)).1
  · intro j mem shot answered
    rw [added, List.mem_singleton] at mem
    subst mem
    cases answered
  · rw [images, same.settings, shooting, added]
    simpa [shooting, jobs, JobStage.shot?] using h.developed
  · intro ticket mem
    rcases List.mem_append.1 mem with old | new
    · rcases h.served ticket old with reached | ⟨j, busy, -⟩ | lapsed
      · exact .inl reached
      · simp [jobs] at busy
      · exact .inr (.inr (lapsed.of_undisturbed same))
    · obtain rfl := List.mem_singleton.1 new
      exact .inr (.inl ⟨_, by rw [added]; exact List.mem_singleton_self _, rfl, rfl,
        JobStage.noConfusion⟩)

/-- The job goes on with the same frame, or still without one. -/
theorem Captured.proceed (h : s.Captured taken handed) (same : Undisturbed s t) {j : Job}
    (jobs : s.jobs = [j]) (stage : JobStage) (kept : stage.shot? = j.stage.shot?)
    (accepted : t.accepted = s.accepted) (images : t.images = s.images)
    (changed : t.jobs = [{ j with stage }])
    (expects : t.Expects { j with stage } ↔ s.Expects j) : t.Captured taken handed := by
  have current := h.current j (by simp [jobs])
  refine ⟨h.rising, ?_, by simpa [changed] using current, h.known, h.once, ?_, ?_, ?_, ?_⟩
  · rw [accepted, same.executor]
    exact h.counted
  · intro k mem expected
    rw [changed, List.mem_singleton] at mem
    subst mem
    exact h.fresh j (by simp [jobs]) (expects.1 expected)
  · intro k mem shot answered
    rw [changed, List.mem_singleton] at mem
    subst mem
    exact h.cropped j (by simp [jobs]) shot (kept ▸ answered)
  · rw [shooting_of_only changed, kept, images, same.settings]
    have developed := h.developed
    rwa [shooting_of_only jobs] at developed
  · intro ticket mem
    rcases h.served ticket mem with reached | ⟨k, busy, own, expected⟩ | lapsed
    · exact .inl reached
    · rw [jobs, List.mem_singleton] at busy
      subst busy
      exact .inr (.inl ⟨{ k with stage }, by simp [changed], own, expects.2 expected⟩)
    · exact .inr (.inr (lapsed.of_undisturbed same))

/-- The job ends: with an image, if its frame makes one, or without a frame, if its session is over
or no frame can come any more. -/
theorem Captured.finish (h : s.Captured taken handed) (same : Undisturbed s t) {j : Job}
    (jobs : s.jobs = [j]) (lapsed : s.Expects j → s.Gone j.ticket.session)
    (accepted : t.accepted = s.accepted) (ended : t.jobs = [])
    (images : t.images = s.images ++
      s.shooting.filterMap (develop s.settings.jpegQuality)) : t.Captured taken handed := by
  refine ⟨h.rising, ?_, by simp [ended], h.known, h.once, by simp [ended], by simp [ended], ?_, ?_⟩
  · rw [accepted, same.executor]
    exact h.counted
  · obtain ⟨before, split_, developed⟩ := h.developed
    refine ⟨handed, by simp [shooting, ended], ?_⟩
    rw [images, developed, same.settings, split_, List.filterMap_append]
  · intro ticket mem
    rcases h.served ticket mem with reached | ⟨k, busy, rfl, expects⟩ | gone
    · exact .inl reached
    · rw [jobs, List.mem_singleton] at busy
      subst busy
      exact .inr (.inr ((lapsed expects).of_undisturbed same))
    · exact .inr (.inr (gone.of_undisturbed same))

/-- A frame reaches the job that waits for it. The job goes on with it, unless no part of it can be
computed. -/
theorem Captured.receive (h : s.Captured taken handed) (same : Undisturbed s t) {j : Job}
    (jobs : s.jobs = [j]) (expected : s.Expects j) (stage : JobStage) (arrival : Arrival)
    (outcome : (∃ shot, stage.shot? = some shot ∧ shot.arrival = arrival ∧
        arrival.crop? j.ticket.visible = some shot.crop) ∨
      stage.shot? = none ∧ arrival.crop? j.ticket.visible = none)
    (unexpecting : ¬t.Expects { j with stage }) (accepted : t.accepted = s.accepted)
    (images : t.images = s.images) (changed : t.jobs = [{ j with stage }]) :
    t.Captured taken (handed ++ [(j.ticket, arrival)]) := by
  have current := h.current j (by simp [jobs])
  refine ⟨h.rising, ?_, by simpa [changed] using current, ?_, ?_, ?_, ?_, ?_, ?_⟩
  · rw [accepted, same.executor]
    exact h.counted
  · simpa [or_imp, forall_and] using And.intro h.known current
  · refine List.pairwise_append.2 ⟨h.once, List.pairwise_singleton _ _, ?_⟩
    intro handover mem other new
    obtain rfl := List.mem_singleton.1 new
    exact h.fresh j (by simp [jobs]) expected handover mem
  · intro k mem expects
    rw [changed, List.mem_singleton] at mem
    subst mem
    exact absurd expects unexpecting
  · intro k mem shot answered
    rw [changed, List.mem_singleton] at mem
    subst mem
    rcases outcome with ⟨shot', answered', rfl, crop⟩ | ⟨none, -⟩
    · cases answered.symm.trans answered'
      exact crop
    · cases none.symm.trans answered
  · obtain ⟨before, split_, developed⟩ := h.developed
    have unshot : s.shooting = [] := by simp [shooting_of_only jobs, expected.unanswered]
    rw [unshot, List.append_nil] at split_
    rw [shooting_of_only changed, images, developed, same.settings, split_]
    rcases outcome with ⟨shot, answered, rfl, -⟩ | ⟨none, uncropped⟩
    · exact ⟨before, by simp [answered], rfl⟩
    · exact ⟨before ++ [(j.ticket, arrival)], by simp [none],
        by simp [develop, uncropped]⟩
  · intro ticket mem
    rcases h.served ticket mem with reached | ⟨k, busy, rfl, -⟩ | gone
    · exact .inl (by simpa using Or.inl (List.mem_map.1 reached))
    · rw [jobs, List.mem_singleton] at busy
      subst busy
      exact .inl (by simp)
    · exact .inr (.inr (gone.of_undisturbed same))

/-! ## What each move keeps -/

theorem Captured.request (h : s.Captured taken handed) (sound : s.Sound) (r : Request) :
    (s.request r).Captured (taken ++ (s.takes? (.request r)).toList) handed := by
  have same := s.request_undisturbed r
  have images : (s.request r).images = s.images := by
    rw [CameraSystem.images, published_request]
    rfl
  cases r with
  | takePicture visible =>
    rcases s.takePicture_cases visible with
      ⟨eq, none⟩ | ⟨session, -, open_, idle, accepts, eq⟩
    · rw [none]
      simpa [CameraSystem.request, eq] using h
    · have jobs := sound.roster.jobs_of_idle idle
      rw [accepts]
      refine h.take sound.numbered same jobs open_ images ?_ ?_
      · simp [CameraSystem.request, eq]
      · simp [CameraSystem.request, eq, jobs]
  | _ =>
    simp only [takes?, Option.toList_none, List.append_nil]
    refine h.of_undisturbed same ?_ ?_ images (.of_eq (by rw [service_request]) ?_) <;>
      simp only [CameraSystem.request, start, openRequest, pause, swap, setViewport, turnDevice,
        tiltDevice, focusOn, setListener, clearListener, barrier, drop, submit] <;>
      repeat' (first | rfl | split)

/-- A frame that is sent is still to come. -/
theorem Captured.send (h : s.Captured taken handed) (sound : s.Sound) (device : Nat) :
    (s.send device).Captured taken handed := by
  obtain ⟨held, secured⟩ := sound.secured
  have images : (s.send device).images = s.images := by
    rw [CameraSystem.images, (s.send_sameDemand device).2]
    rfl
  rcases s.send_cases device with ⟨-, missed, eq⟩ | ⟨ticket, frame, -, served, eq⟩
  · refine h.of_undisturbed (s.send_undisturbed device) (by rw [eq]) (by rw [eq]) images ?_
    rw [eq]
    exact .of_eq (Simulator.tickets_fire_eq device missed) rfl
  · refine h.of_undisturbed (s.send_undisturbed device) (by rw [eq]) (by rw [eq]) images ?_
    rw [eq]
    obtain ⟨waited, untaken⟩ :=
      secured.holds.fire_some sound.attended.serves (Prod.ext served rfl)
    refine ⟨fun other asked => ?_, fun other asked _ _ => ?_⟩
    · rcases asked with waits | ⟨sent, mem, rfl⟩
      · exact .inl (Simulator.tickets_fire device waits)
      · rcases List.mem_append.1 mem with before | new
        · exact .inr ⟨sent, before, rfl⟩
        · cases List.mem_singleton.1 new
          exact .inl waited
    · rcases asked with waits | ⟨sent, mem, rfl⟩
      · obtain rfl := sound.roster.ticket_eq (sound.roster.tickets ticket waited) (.inl waits)
        exact .inr ⟨_, List.mem_append_right _ (List.mem_singleton_self _), rfl⟩
      · exact .inr ⟨sent, List.mem_append_left _ mem, rfl⟩

/-- A frame that arrives reaches the job that waits for it, unless the session is over. -/
theorem Captured.arrive (h : s.Captured taken handed) (tuned : s.Tuned) (job : Nat) :
    (s.arrive job).Captured taken (handed ++ (s.hands? (.task (.arrival job))).toList) := by
  have same := s.arrive_undisturbed job
  have images : (s.arrive job).images = s.images := by
    rw [CameraSystem.images, (s.arrive_sameDemand job).2]
    rfl
  cases found : s.sent? job with
  | none => simpa [CameraSystem.arrive, hands?, found] using h
  | some sent =>
    obtain ⟨jobs, unasked⟩ := tuned.sound.roster.of_sent? found
    have expected : s.Expects ⟨sent.ticket, .requested⟩ :=
      ⟨rfl, fun _ => .inr ⟨sent, List.mem_of_find?_eq_some found, rfl⟩⟩
    rcases s.arrive_cases found with
      ⟨missed, why, eq⟩ | ⟨o, -, -, reached, ⟨uncropped, eq⟩ | ⟨crop, cropped, eq⟩⟩
    · rw [missed, Option.toList_none, List.append_nil]
      refine h.of_undisturbed same (by rw [eq]) (by rw [eq]) images ⟨fun other asked => ?_,
        fun other asked _ open_ => ?_⟩
      · rw [eq] at asked
        exact absurd asked (unasked.not_asked other)
      · -- what was asked for is this frame, which counts while its session is open
        obtain rfl := tuned.sound.roster.ticket_eq jobs asked
        rw [session?, same.slot] at open_
        rcases why with lapsed | blind
        · exact absurd open_ lapsed
        · obtain ⟨camera, slot, -⟩ := Option.map_eq_some_iff.1 open_
          cases blind.symm.trans (tuned.oriented.opened camera slot)
    · rw [reached]
      refine h.receive same jobs expected .requested ⟨sent.frame, o.output⟩
        (.inr ⟨rfl, uncropped⟩) (fun expects => ?_) (by rw [eq]) images (by rw [eq]; exact jobs)
      rw [eq] at expects
      exact unasked.not_asked _ (expects.asked rfl)
    · rw [reached]
      refine h.receive same jobs expected (.received ⟨sent.frame, o.output, crop⟩)
        ⟨sent.frame, o.output⟩ (.inl ⟨_, rfl, rfl, cropped⟩) (fun expects => ?_) (by rw [eq]; rfl)
        images (by rw [eq]; simp [setJobStage, jobs])
      cases expects.unanswered

/-- A job whose ticket is lost, or that has none yet, ends when its session is over. -/
theorem Captured.abort (h : s.Captured taken handed) {j : Job} (jobs : s.jobs = [j])
    (unanswered : j.stage.shot? = none) (lapsed : s.session? ≠ some j.ticket.session) :
    (s.endJob j.ticket.job).Captured taken handed := by
  obtain ⟨-, begun⟩ := h.counted _ (h.current j (by simp [jobs]))
  refine h.finish ⟨rfl, rfl, rfl, rfl, rfl, rfl⟩ jobs (fun _ => ⟨begun, lapsed⟩) rfl ?_ ?_
  · simp [endJob, removeJob, jobs]
  · rw [shooting_of_only jobs, unanswered]
    exact (List.append_nil _).symm

theorem Captured.requestFrame (h : s.Captured taken handed) (secured : s.Secured held) {j : Job}
    (jobs : s.jobs = [j]) (ready : j.stage = .ready) :
    (s.requestFrame j.ticket).Captured taken handed := by
  by_cases open_ : s.session? = some j.ticket.session
  · obtain ⟨camera, slot, same⟩ := Option.map_eq_some_iff.1 open_
    obtain ⟨-, rfl⟩ := secured.of_slot slot
    rw [secured.requestFrame_eq slot same]
    refine h.proceed ⟨rfl, rfl, rfl, rfl, rfl, rfl⟩ jobs .requested ?_ rfl rfl ?_
      (iff_of_true ⟨rfl, fun _ => ?_⟩ ?_)
    · rw [ready]
      rfl
    · simp [setJobStage, jobs]
    · exact .inl (secured.holds.mem_tickets_requestFrame j.ticket)
    · exact ⟨by rw [ready]; rfl, by simp [ready]⟩
  · rw [requestFrame_of_ne s open_]
    exact h.abort jobs (by rw [ready]; rfl) open_

/-- A frame that has been processed makes an image or none, and the job ends. -/
theorem Captured.processed (h : s.Captured taken handed) {j : Job} (jobs : s.jobs = [j])
    {shot : Shot} (stage : j.stage = .processing shot) : (s.jobStep j).Captured taken handed := by
  have answered : j.stage.shot? = some shot := by
    rw [stage]
    rfl
  have done (expects : s.Expects j) : s.Gone j.ticket.session := by
    cases expects.unanswered.symm.trans answered
  have shooting : s.shooting = [(j.ticket, shot.arrival)] := by
    simp [shooting_of_only jobs, answered]
  have developed : develop s.settings.jpegQuality (j.ticket, shot.arrival) =
      (shot.frame.still shot.rotation shot.crop s.settings.jpegQuality).toOption.map fun still =>
        ⟨j.ticket.job, still, shot.rotation⟩ :=
    develop_of_crop (h.cropped j (by simp [jobs]) shot answered)
  cases made : shot.frame.still shot.rotation shot.crop s.settings.jpegQuality with
  | ok still =>
    have eq : s.jobStep j = (s.endJob j.ticket.job).publish
        (.imageCaptured ⟨j.ticket.job, still, shot.rotation⟩) := by
      simp only [CameraSystem.jobStep, stage, made]
    rw [eq]
    refine h.finish ⟨rfl, rfl, rfl, rfl, rfl, rfl⟩ jobs done rfl ?_ ?_
    · simp [endJob, removeJob, publish, jobs]
    · simp only [shooting, List.filterMap_cons, developed, made]
      exact images_publish _ _
  | error e =>
    have eq : s.jobStep j = s.endJob j.ticket.job := by
      simp only [CameraSystem.jobStep, stage, made]
    rw [eq]
    refine h.finish ⟨rfl, rfl, rfl, rfl, rfl, rfl⟩ jobs done rfl ?_ ?_
    · simp [endJob, removeJob, jobs]
    · simp only [shooting, List.filterMap_cons, developed, made]
      exact (List.append_nil _).symm

theorem Captured.jobStep (h : s.Captured taken handed) (sound : s.Sound) {j : Job}
    (jobs : s.jobs = [j]) : (s.jobStep j).Captured taken handed := by
  obtain ⟨held, secured⟩ := sound.secured
  have mem : j ∈ s.jobs := by simp [jobs]
  cases stage : j.stage with
  | waiting =>
    simp only [CameraSystem.jobStep, stage]
    by_cases open_ : s.session? = some j.ticket.session
    · obtain ⟨camera, slot, -⟩ := Option.map_eq_some_iff.1 open_
      have lasts : s.isOver j.ticket.session = false := by
        simp [isOver, (secured.of_slot slot).1, open_]
      simp only [lasts, Bool.false_eq_true, if_false]
      split
      · exact h
      · refine h.proceed ⟨rfl, rfl, rfl, rfl, rfl, rfl⟩ jobs .ready ?_ rfl rfl ?_
          (iff_of_true ⟨rfl, JobStage.noConfusion⟩ ⟨by rw [stage]; rfl, by simp [stage]⟩)
        · rw [stage]
          rfl
        · simp [setJobStage, jobs]
    · have lapsed : s.isOver j.ticket.session = true := by simp [isOver, open_]
      rw [if_pos lapsed]
      exact h.abort jobs (by rw [stage]; rfl) open_
  | ready =>
    simp only [CameraSystem.jobStep, stage]
    exact h.requestFrame secured jobs stage
  | requested =>
    simp only [CameraSystem.jobStep, stage]
    split
    · next lost =>
      have unasked := sound.roster.unasked_of_lost jobs stage lost
      refine h.finish ⟨rfl, rfl, rfl, rfl, rfl, rfl⟩ jobs
        (fun expects => absurd (expects.asked stage) (unasked.not_asked _)) rfl ?_ ?_
      · simp [endJob, removeJob, jobs]
      · rw [shooting_of_only jobs, stage]
        exact (List.append_nil _).symm
    · exact h
  | received shot =>
    simp only [CameraSystem.jobStep, stage]
    refine h.proceed ⟨rfl, rfl, rfl, rfl, rfl, rfl⟩ jobs (.processing shot) ?_ rfl rfl ?_
      (iff_of_false (fun expects => ?_) fun expects => ?_)
    · rw [stage]
      rfl
    · simp [setJobStage, jobs]
    · cases expects.unanswered
    · have unanswered := expects.unanswered
      rw [stage] at unanswered
      cases unanswered
  | processing shot => exact h.processed jobs stage

theorem Captured.executorStep (h : s.Captured taken handed) (sound : s.Sound)
    (ready : s.executorReady = true) : s.executorStep.Captured taken handed := by
  obtain ⟨held, secured⟩ := sound.secured
  have turn := secured.turn ready
  have same := s.executorStep_sameCaptures
  refine h.of_same same.jobs same.accepted (images_of_turn turn) (settings_turn turn)
    (sound.numbered.le_of_turn turn) (fun _ gone => gone.of_turn sound.numbered turn)
    ⟨fun ticket asked => ?_, fun ticket asked begun open_ => ?_⟩
  · rw [Asked, same.inFlight] at asked
    exact asked.imp_left fun waits => tickets_of_turn turn waits
  obtain ⟨camera, slot, own⟩ := Option.map_eq_some_iff.1 open_
  -- the camera has been there before, or its session would be a new one
  have before : s.slot = some camera := by
    rcases sound.numbered.slot_of_turn turn with kept | none | ⟨other, open_, next⟩
    · exact kept ▸ slot
    · cases none.symm.trans slot
    · cases open_.symm.trans slot
      omega
  rw [Asked, same.inFlight, tickets_of_turn_eq secured turn before]
  exact asked

theorem Captured.move (h : s.Captured taken handed) (tuned : s.Tuned) {m : Move}
    (enabled : s.enabled m = true) :
    (s.move m).Captured (taken ++ (s.takes? m).toList) (handed ++ (s.hands? m).toList) := by
  obtain ⟨held, secured⟩ := tuned.sound.secured
  have images : (s.move m).images = s.images ++ (s.develops? m).toList :=
    images_move secured enabled
  cases m with
  | request r => simpa [hands?, CameraSystem.move] using h.request tuned.sound r
  | setFaults faults =>
    have same : Undisturbed s (s.move (.setFaults faults)) := ⟨rfl, rfl, rfl, rfl, rfl, rfl⟩
    simpa [hands?, takes?] using h.of_undisturbed same rfl rfl rfl (.of_eq rfl rfl)
  | task task =>
    simp only [takes?, Option.toList_none, List.append_nil]
    cases task with
    | executor =>
      simpa [hands?, CameraSystem.move, step] using h.executorStep tuned.sound enabled
    | preparation session =>
      have same := s.prepare_undisturbed session
      simp only [hands?, Option.toList_none, List.append_nil]
      refine h.of_undisturbed same ?_ ?_ (images.trans (List.append_nil _))
        (.of_eq (by rw [CameraSystem.move, step, service_prepare]) ?_) <;>
        simp only [CameraSystem.move, step, prepare, submit] <;> split <;> rfl
    | job id =>
      simp only [hands?, Option.toList_none, List.append_nil, CameraSystem.move, step]
      cases found : s.job? id with
      | none => exact h
      | some j => exact h.jobStep tuned.sound (tuned.sound.roster.job_eq found)
    | bridge feed =>
      have images := images.trans (List.append_nil _)
      simp only [hands?, Option.toList_none, List.append_nil, CameraSystem.move, step] at images ⊢
      cases found : s.bridge? feed with
      | none => exact h
      | some b =>
        rw [found] at images
        exact h.of_undisturbed (s.bridgeStep_undisturbed b) rfl rfl images
          (.of_eq rfl rfl)
    | delivery device =>
      simp only [hands?, Option.toList_none, List.append_nil]
      exact h.send tuned.sound device
    | arrival job => exact h.arrive tuned job

theorem captured_ofCameras (settings : Settings) (cameras : List CameraSpec) (capacity : Nat)
    (facing : Facing) : (ofCameras settings cameras capacity facing).Captured [] [] := by
  refine ⟨.nil, ?_, ?_, ?_, .nil, ?_, ?_, ⟨[], rfl, rfl⟩, ?_⟩
  all_goals
    intro _ mem
    cases mem

/-- Every run accounts for all captures that it has accepted and all frames that have reached
them. -/
theorem captured_of_run? {settings : Settings} {cameras : List CameraSpec} {capacity : Nat}
    {facing : Facing} {moves : List Move}
    (run : (ofCameras settings cameras capacity facing).run? moves = some t) :
    t.Captured ((ofCameras settings cameras capacity facing).along takes? moves)
      ((ofCameras settings cameras capacity facing).along hands? moves) := by
  have start : (ofCameras settings cameras capacity facing).Tuned ∧
      (ofCameras settings cameras capacity facing).Captured [] [] :=
    ⟨tuned_ofCameras settings cameras capacity facing,
      captured_ofCameras settings cameras capacity facing⟩
  have kept := run?_records (P := fun u taken handed => u.Tuned ∧ u.Captured taken handed)
    (fun _ _ _ _ ⟨tuned, h⟩ enabled => ⟨tuned.move enabled, h.move tuned enabled⟩) run start
  simpa using kept.2

end Viewfinder.CameraSystem
