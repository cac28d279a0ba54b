import Viewfinder.Proofs.Captures

/-!
# Captures come to an end

When nothing can make a step, no capture is under way but one that waits for the viewport of the
session that is open. Every other capture of that session was reached by one frame and has given one
image, if the frame could be made into one, and a capture whose session ended before a frame came
never gives any (`captures_complete`).
-/

namespace Viewfinder

/-- Of things in rising order only one has a given number. -/
theorem filter_eq_of_rising {α : Type} {number : α → Nat} {l : List α}
    (rising : l.Pairwise (number · < number ·)) {a : α} (mem : a ∈ l) :
    l.filter (fun b => number b = number a) = [a] := by
  induction l with
  | nil => cases mem
  | cons b rest ih =>
    obtain ⟨below, rising⟩ := List.pairwise_cons.1 rising
    rcases List.mem_cons.1 mem with rfl | mem
    · have others : rest.filter (fun b => number b = number a) = [] := by
        rw [List.filter_eq_nil_iff]
        intro c mem
        have := below c mem
        simp
        omega
      simp [others]
    · have := below a mem
      rw [List.filter_cons_of_neg (by simp; omega)]
      exact ih rising mem

/-- An image has the number of the ticket that it was made for. -/
theorem filter_develop (quality : UInt8) (job : Nat) (l : List (Ticket × Arrival)) :
    (l.filterMap (develop quality)).filter (·.job = job) =
      (l.filter (·.1.job = job)).filterMap (develop quality) := by
  rw [List.filter_filterMap, List.filterMap_filter]
  refine List.filterMap_congr fun handover _ => ?_
  cases developed : develop quality handover with
  | none => simp
  | some image =>
    obtain ⟨-, -, -, same, -⟩ := develop_eq_some.1 developed
    simp [Option.filter, same]

namespace CameraSystem

variable {s t : CameraSystem (Simulator Ticket)} {taken : List Ticket}
  {handed : List (Ticket × Arrival)}

theorem Captured.ticket_eq (h : s.Captured taken handed) {a b : Ticket} (ha : a ∈ taken)
    (hb : b ∈ taken) (same : a.job = b.job) : a = b := by
  have only := filter_eq_of_rising h.rising hb
  have mem : a ∈ taken.filter fun c => c.job = b.job := List.mem_filter.2 ⟨ha, by simp [same]⟩
  rw [only] at mem
  exact List.mem_singleton.1 mem

/-- Every image is made of a frame that has reached a job. -/
theorem Captured.mem_images (h : s.Captured taken handed) {image : CapturedImage}
    (mem : image ∈ s.images) :
    ∃ handover ∈ handed, develop s.settings.jpegQuality handover = some image := by
  obtain ⟨done, split_, developed⟩ := h.developed
  rw [developed] at mem
  obtain ⟨handover, mem, eq⟩ := List.mem_filterMap.1 mem
  exact ⟨handover, split_ ▸ List.mem_append_left _ mem, eq⟩

/-- When no frame is being developed, all that have reached a job are. -/
theorem Captured.images_eq (h : s.Captured taken handed) (none : s.shooting = []) :
    s.images = handed.filterMap (develop s.settings.jpegQuality) := by
  obtain ⟨done, split_, developed⟩ := h.developed
  rw [developed, split_, none, List.append_nil]

section

variable {settings : Settings} {cameras : List CameraSpec} {capacity : Nat} {facing : Facing}

/-- No frame reaches a capture after the end of its session. -/
theorem unreached_of_gone {before after : List Move} {ticket : Ticket}
    (run : (ofCameras settings cameras capacity facing).run? before = some s)
    (later : s.run? after = some t)
    (accepted : ticket ∈ (ofCameras settings cameras capacity facing).along takes? before)
    (unreached : ∀ handover ∈ (ofCameras settings cameras capacity facing).along hands? before,
      handover.1 ≠ ticket) (lapsed : s.session? ≠ some ticket.session) :
    ∀ handover ∈ (ofCameras settings cameras capacity facing).along hands? (before ++ after),
      handover.1.job ≠ ticket.job := by
  have whole := captured_of_run? (run?_append_eq_some.2 ⟨s, run, later⟩)
  have begun := ((captured_of_run? run).counted ticket accepted).2
  rw [along_append run, along_append run] at whole
  rw [along_append run]
  rintro ⟨other, arrival⟩ mem same
  obtain rfl : other = ticket :=
    whole.ticket_eq (whole.known _ mem) (List.mem_append_left _ accepted) same
  rcases List.mem_append.1 mem with early | late
  · exact unreached _ early rfl
  · obtain ⟨mid, m, rest, u, rfl, midway, -, reached, -⟩ := mem_along later late
    obtain ⟨-, -, -, -, -, open_, -⟩ := hands?_eq_some reached
    have gone : s.Gone other.session := ⟨begun, lapsed⟩
    exact (gone.of_run? (sound_of_run? run) midway).2 open_

/-- A frame that reaches a capture was handed over by a camera. -/
theorem frame_of_handover {moves : List Move} {ticket : Ticket} {arrival : Arrival}
    (run : (ofCameras settings cameras capacity facing).run? moves = some t)
    (mem : (ticket, arrival) ∈ (ofCameras settings cameras capacity facing).along hands? moves) :
    ∃ faults id, arrival.frame = Simulator.frame faults id arrival.frame.size := by
  -- the move at which the frame arrived, and before it the one at which it was sent
  obtain ⟨before, m, after, u, -, earlier, -, reached, -⟩ := mem_along run mem
  obtain ⟨job, o, -, found, -⟩ := hands?_eq_some reached
  obtain ⟨first, device, rest, v, -, earlier', -, made, -⟩ :=
    sent_of_run? earlier (List.mem_of_find?_eq_some found)
  have sound := sound_of_run? earlier'
  obtain ⟨held, secured⟩ := sound.secured
  obtain ⟨-, d, -, -, taken⟩ := secured.holds.fire_device sound.attended.serves made
  exact ⟨v.service.faults, v.service.frames, by rw [show arrival.frame = _ from taken]; rfl⟩

/-- When nothing can make a step, at most a capture is left that waits for the viewport of the
session that is open. -/
theorem AtRest.jobs (rest : t.AtRest) (sound : t.Sound) :
    t.jobs = [] ∧ t.capture = .idle ∨
      ∃ j, t.jobs = [j] ∧ t.capture = .frameRequested ∧ j.stage = .waiting ∧ t.state = .opened ∧
        t.session? = some j.ticket.session ∧ t.viewport.isEmpty = true := by
  obtain ⟨held, secured⟩ := sound.secured
  rcases sound.roster.job with none | ⟨j, jobs, shown, -⟩
  · exact .inl none
  · obtain ⟨waiting, state, open_, hidden⟩ := secured.blocked sound.attended rest jobs
    rw [waiting] at shown
    exact .inr ⟨j, jobs, shown, waiting, state, open_, hidden⟩

/-- A frame that can be made into an image gives one, once nothing is left to do. -/
theorem images_of_handover (rest : t.AtRest) (sound : t.Sound) (captured : t.Captured taken handed)
    {ticket : Ticket} {arrival : Arrival} (mem : (ticket, arrival) ∈ handed) {crop : Rect}
    (cropped : arrival.crop? ticket.visible = some crop) {still : Still}
    (made : arrival.frame.still arrival.rotation crop t.settings.jpegQuality = .ok still) :
    t.images.filter (·.job = ticket.job) = [⟨ticket.job, still, arrival.rotation⟩] := by
  have developing : t.shooting = [] := by
    rcases rest.jobs sound with ⟨jobs, -⟩ | ⟨j, jobs, -, waiting, -⟩
    · simp [shooting, jobs]
    · simp [shooting_of_only jobs, waiting, JobStage.shot?]
  have once := filter_eq_of_rising captured.once mem
  have developed : develop t.settings.jpegQuality (ticket, arrival) =
      some ⟨ticket.job, still, arrival.rotation⟩ := by
    rw [develop_of_crop cropped, made]
    rfl
  rw [captured.images_eq developing, filter_develop, once]
  simp [developed]

/-- When nothing can make a step, a capture of the session that is open has its frame if there is a
viewport. -/
theorem reached_of_visible (rest : t.AtRest) (sound : t.Sound)
    (captured : t.Captured taken handed) (visible : t.viewport.isEmpty = false) {ticket : Ticket}
    (accepted : ticket ∈ taken) (open_ : t.session? = some ticket.session) :
    ∃ arrival, (ticket, arrival) ∈ handed := by
  rcases captured.served ticket accepted with reached | ⟨j, busy, -⟩ | lapsed
  · obtain ⟨⟨ticket, arrival⟩, mem, rfl⟩ := List.mem_map.1 reached
    exact ⟨arrival, mem⟩
  · rcases rest.jobs sound with ⟨none, -⟩ | ⟨k, -, -, -, -, -, hidden⟩
    · simp [none] at busy
    · cases visible.symm.trans hidden
  · exact absurd open_ lapsed.2

/-- When nothing can make a step, what may wait is not a capture whose session is over. -/
theorem idle_or_later_of_gone (rest : t.AtRest) (sound : t.Sound)
    (captured : t.Captured taken handed) {ticket : Ticket} (accepted : ticket ∈ taken)
    (gone : t.Gone ticket.session) :
    t.capture = .idle ∨ ∃ later ∈ taken, ticket.job < later.job ∧ t.jobs = [⟨later, .waiting⟩] := by
  rcases rest.jobs sound with ⟨-, idle⟩ | ⟨⟨later, stage⟩, jobs, -, rfl, -, open_, -⟩
  · exact .inl idle
  · have current : later ∈ taken := captured.current ⟨later, .waiting⟩ (by simp [jobs])
    have newest := (captured.counted ticket accepted).1
    rw [← (sound.roster.only jobs).2.1] at newest
    refine .inr ⟨later, current, Nat.lt_of_le_of_ne newest fun same => gone.2 ?_, jobs⟩
    rw [captured.ticket_eq accepted current same]
    exact open_

/-- No capture is lost and none is stuck. Once nothing can make a step, a capture is under way only
if it waits for the viewport of the session that is open. Every other capture of that session was
reached by one frame, and one image was published of it if the frame decodes, as it does when it has
some extent and is whole, if the part that is wanted can be computed and leaves something of it, and
if this can be encoded. Of a capture whose session was over before a frame had reached it no image
is ever published, and it ends: what may wait at rest is a capture that was accepted later. -/
theorem captures_complete {moves : List Move}
    (run : (ofCameras settings cameras capacity facing).run? moves = some t) :
    (t.AtRest → t.capture = .idle ∨
      ∃ j, t.jobs = [j] ∧ t.capture = .frameRequested ∧ t.state = .opened ∧
        t.session? = some j.ticket.session ∧ t.viewport.isEmpty = true) ∧
    (t.AtRest → t.viewport.isEmpty = false →
      ∀ ticket ∈ (ofCameras settings cameras capacity facing).along takes? moves,
        t.session? = some ticket.session →
        ∃ arrival faults id,
          ((ofCameras settings cameras capacity facing).along hands? moves).filter
            (·.1.job = ticket.job) = [(ticket, arrival)] ∧
          arrival.frame = Simulator.frame faults id arrival.frame.size ∧
          (faults.corruptFrames = false → arrival.frame.size.isEmpty = false →
            ∃ raster, arrival.frame.decode = .ok raster) ∧
          ∀ crop raster region bytes,
            visiblePart arrival.frame.size ticket.visible arrival.rotation = some crop →
            arrival.frame.decode = .ok raster →
            crop.intersect? (raster.rotate arrival.rotation).bounds = some (some region) →
            ((raster.rotate arrival.rotation).crop region).toJpeg settings.jpegQuality =
              .ok bytes →
            t.images.filter (·.job = ticket.job) =
              [⟨ticket.job, ⟨bytes, region.size⟩, arrival.rotation⟩]) ∧
    (∀ before after s, moves = before ++ after →
      (ofCameras settings cameras capacity facing).run? before = some s →
      ∀ ticket ∈ (ofCameras settings cameras capacity facing).along takes? before,
        s.session? ≠ some ticket.session →
        (∀ handover ∈ (ofCameras settings cameras capacity facing).along hands? before,
          handover.1 ≠ ticket) →
        (∀ image ∈ t.images, image.job ≠ ticket.job) ∧
          (t.AtRest → t.capture = .idle ∨
            ∃ later ∈ (ofCameras settings cameras capacity facing).along takes? moves,
              ticket.job < later.job ∧ t.jobs = [⟨later, .waiting⟩])) := by
  have sound := sound_of_run? run
  have captured := captured_of_run? run
  have settings_eq : t.settings = settings :=
    settings_of_run? (secured_ofCameras settings cameras capacity facing) run
  refine ⟨?_, ?_, ?_⟩
  · intro rest
    rcases rest.jobs sound with ⟨-, idle⟩ | ⟨j, jobs, shown, -, state, open_, hidden⟩
    · exact .inl idle
    · exact .inr ⟨j, jobs, shown, state, open_, hidden⟩
  · intro rest visible ticket accepted open_
    obtain ⟨arrival, mem⟩ := reached_of_visible rest sound captured visible accepted open_
    obtain ⟨faults, id, made⟩ := frame_of_handover run mem
    refine ⟨arrival, faults, id, filter_eq_of_rising captured.once mem, made, ?_, ?_⟩
    · intro whole extent
      obtain ⟨raster, decoded, -⟩ := Simulator.decode_frame whole id extent
      exact ⟨raster, by rw [made]; exact decoded⟩
    · intro crop raster region bytes cropped decoded cut encoded
      apply images_of_handover rest sound captured mem cropped
      rw [settings_eq]
      exact Frame.still_eq_ok.2 ⟨raster, region, bytes, decoded, cut, encoded, rfl⟩
  · rintro before after s rfl earlier ticket accepted lapsed unreached
    obtain ⟨u, earlier', later⟩ := run?_append_eq_some.1 run
    cases earlier.symm.trans earlier'
    refine ⟨?_, ?_⟩
    · intro image mem
      obtain ⟨handover, mem, developed⟩ := captured.mem_images mem
      obtain ⟨-, -, -, same, -⟩ := develop_eq_some.1 developed
      rw [same]
      exact unreached_of_gone earlier later accepted unreached lapsed handover mem
    · intro rest
      have begun := ((captured_of_run? earlier).counted ticket accepted).2
      have gone : t.Gone ticket.session :=
        Gone.of_run? ⟨begun, lapsed⟩ (sound_of_run? earlier) later
      refine idle_or_later_of_gone rest sound captured ?_ gone
      rw [along_append earlier]
      exact List.mem_append_left _ accepted

end

/-- A camera with a preview of a few pixels. -/
def tinyCamera : List CameraSpec := [⟨⟨.back, 90⟩, ⟨[⟨4, 2⟩, ⟨4, 4⟩], 0, 0, []⟩, ⟨4, 2⟩⟩]

/-- A picture is asked for before there is a viewport, and the camera is paused. -/
def closedEarly : List Move :=
  .flatten [
    [.request (.start .back)], turns 6,
    [.request (.takePicture ⟨0, 0, 100, 100⟩), .request .pause], turns 4]

/-- The camera is opened again, and a frame that is asked for finds the preview stopped, as it is
being resized, and comes when it has been started again. -/
def openedAgain : List Move :=
  let job (n : Nat) : List Move := List.replicate n (.task (.job 2))
  .flatten [
    [.task (.job 1), .task (.preparation 1), .request (.setViewport ⟨2, 4⟩),
      .request (.start .back)], turns 6, [.task (.preparation 2)], turns 1,
    [.request (.takePicture ⟨0, 0, 2, 4⟩)], job 2, [.request (.setViewport ⟨4, 4⟩)], turns 3,
    [.task (.delivery 1)], turns 2, [.task (.delivery 1)], turns 1, [.task (.arrival 2)], job 2]

theorem captures_complete_openedAgain :
    ∃ t image, (ofCameras {} tinyCamera 64 .back).run? (closedEarly ++ openedAgain) = some t ∧
      t.AtRest ∧ t.capture = .idle ∧ (∀ other ∈ t.images, other.job ≠ 1) ∧
      t.images.filter (·.job = 2) = [image] ∧ image.rotation = 90 ∧
      image.still.size = ⟨2, 4⟩ := by
  have checked : ((ofCameras {} tinyCamera 64 .back).run? (closedEarly ++ openedAgain)).any
      fun t => t.session? = some 2 ∧ t.viewport = ⟨4, 4⟩ ∧ t.capture = .idle ∧
        ∀ task ∈ t.tasks, t.ready task = false := by
    decide +kernel
  have paused : ((ofCameras {} tinyCamera 64 .back).run? closedEarly).any
      fun s => s.session? = none := by
    decide +kernel
  have accepted : (ofCameras {} tinyCamera 64 .back).along takes? (closedEarly ++ openedAgain) =
      [⟨1, 1, ⟨0, 0, 100, 100⟩⟩, ⟨2, 2, ⟨0, 0, 2, 4⟩⟩] := by
    decide +kernel
  have reached : (ofCameras {} tinyCamera 64 .back).along hands? (closedEarly ++ openedAgain) =
      [(⟨2, 2, ⟨0, 0, 2, 4⟩⟩, ⟨Simulator.frame {} 0 ⟨4, 4⟩, 90⟩)] := by
    decide +kernel
  have unreached : (ofCameras {} tinyCamera 64 .back).along hands? closedEarly = [] := by
    decide +kernel
  have asked : (ofCameras {} tinyCamera 64 .back).along takes? closedEarly =
      [⟨1, 1, ⟨0, 0, 100, 100⟩⟩] := by
    decide +kernel
  obtain ⟨t, run, facts⟩ := Option.any_eq_true _ _ |>.1 checked
  obtain ⟨s, early, closed⟩ := Option.any_eq_true _ _ |>.1 paused
  obtain ⟨open_, viewport, idle, unready⟩ := of_decide_eq_true facts
  have rest : t.AtRest := atRest_of_tasks unready
  obtain ⟨-, complete, lost⟩ := captures_complete run
  obtain ⟨arrival, faults, id, once, -, -, develops⟩ :=
    complete rest (by rw [viewport]; decide) ⟨2, 2, ⟨0, 0, 2, 4⟩⟩ (by rw [accepted]; simp) open_
  obtain rfl : ⟨Simulator.frame {} 0 ⟨4, 4⟩, 90⟩ = arrival := by
    rw [reached] at once
    simpa using once
  obtain ⟨never, -⟩ := lost closedEarly openedAgain s rfl early ⟨1, 1, ⟨0, 0, 100, 100⟩⟩
    (by rw [asked]; simp) (by simp [of_decide_eq_true closed]) (by rw [unreached]; simp)
  have image := develops ⟨1, 0, 3, 4⟩ _ ⟨1, 0, 3, 4⟩ _ (by decide +kernel) rfl
    (by decide +kernel) rfl
  exact ⟨t, _, run, rest, idle, never, image, rfl, by decide⟩

end CameraSystem

end Viewfinder
