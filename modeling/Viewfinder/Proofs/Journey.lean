import Viewfinder.Proofs.Touring

/-!
# On tour

The visitor and the tasks of the system make their steps in any order. In each phase of a tour the
system is on its way to what the visitor waits for (`Tour.Going`), so there is always something that
can make a step (`Tour.Within.enabled`), and every step leaves less of the tour
(`Tour.Within.move`).
-/

namespace Viewfinder

/-- What the visitor asks for on the way. -/
def Request.visits : Request → Bool
  | .pause | .swap | .focusOn _ | .takePicture _ | .barrier => true
  | _ => false

namespace CameraSystem

variable {s : CameraSystem (Simulator Ticket)} {id : Nat} {waiting unread : List Event}

theorem Quiet.effort (h : s.Quiet) (jobs : s.jobs = []) : s.effort = 0 := by
  simp [CameraSystem.effort, h.idle, h.queue, h.preparing, jobs, Stage.effort]

theorem images_append {t : CameraSystem (Simulator Ticket)} {fresh : List Event}
    (published : t.published = s.published ++ fresh) :
    t.images = s.images ++ fresh.filterMap Event.image? := by
  rw [images, published, List.filterMap_append, images]

/-- The system of a tour, with a visitor who reads with the subscriber `id`. No more is ever unread
at once than the bus keeps: every event has been paid for with twice the effort. -/
structure Hosts (s : CameraSystem (Simulator Ticket)) (id : Nat) (waiting unread : List Event) :
    Prop where
  staged : s.Staged
  followed : s.Followed id waiting unread
  capacity : s.bus.capacity = 64
  unfailing : ∀ e ∈ unread, e.fails = false
  load : s.effort + 2 * unread.length ≤ 59

theorem Hosts.step (h : s.Hosts id waiting unread) {task : Task} (ready : s.ready task = true) :
    ∃ fresh waiting', (s.step task).Hosts id waiting' (unread ++ fresh) ∧
      (s.step task).published = s.published ++ fresh ∧
      (s.step task).ahead waiting' (unread ++ fresh) < s.ahead waiting unread ∧
      (s.step task).effort + 2 * (unread ++ fresh).length ≤ s.effort + 2 * unread.length := by
  obtain ⟨fresh, waiting', followed, published, capacity, less, load⟩ :=
    h.followed.advance h.staged.sound h.staged.steady.inUse ready
  have unfailing := h.staged.steady.unfailing_step Simulator.complete_dual ready published
  refine ⟨fresh, waiting', ?_, published, less, load⟩
  exact {
    staged := h.staged.step ready
    followed := followed
    capacity := capacity.trans h.capacity
    unfailing := fun e mem => (List.mem_append.1 mem).elim (h.unfailing e) (unfailing e)
    load := Nat.le_trans load h.load }

/-- The visitor finds the oldest of what is unread, and has one event less ahead. -/
theorem Hosts.read {e : Event} (h : s.Hosts id waiting (e :: unread)) :
    ∃ subscribers, s.bus.receive id = (.event e, { s.bus with subscribers := subscribers }) ∧
      (s.withSubscribers subscribers).Hosts id waiting unread ∧
      (s.withSubscribers subscribers).ahead waiting unread + 2 =
        s.ahead waiting (e :: unread) := by
  have load := h.load
  have capacity := h.capacity
  rw [List.length_cons] at load
  obtain ⟨subscribers, read, followed⟩ := h.followed.read (by omega)
  refine ⟨subscribers, read, ?_, ?_⟩
  · exact {
      staged := h.staged.read subscribers
      followed := followed
      capacity := capacity
      unfailing := fun other mem => h.unfailing other (by simp [mem])
      load := Nat.le_trans (Nat.add_le_add_left (by omega) _) load }
  · show 2 * (s.effort + waiting.length + unread.length) + s.framesAhead + 2 =
      2 * (s.effort + waiting.length + (unread.length + 1)) + s.framesAhead
    omega

theorem Hosts.request (h : s.Hosts id waiting unread) {r : Request} (visits : r.visits = true)
    (aims : ∀ tap, r = .focusOn tap → ({} : Settings).focusMapper.Computes tap)
    (load : s.effort + r.effort + 2 * unread.length ≤ 59) :
    (s.request r).Hosts id waiting unread ∧ (s.request r).images = s.images ∧
      (s.request r).ahead waiting unread ≤ s.ahead waiting unread + 2 * r.effort := by
  have calm : (Move.request r).calm = true := by
    cases r <;> first | rfl | cases visits
  have other : r.listens = false := by
    cases r <;> first | rfl | cases visits
  have viewport : (s.request r).viewport = s.viewport := by
    refine (congrArg Plan.viewport (h.staged.plan_request r)).trans ?_
    cases r with
    | pause | swap | focusOn | takePicture | barrier =>
      simp only [Plan.steer, Plan.opens, Plan.closes]
      repeat' (first | rfl | split)
    | _ => cases visits
  obtain ⟨followed, bus⟩ := h.followed.request other
  have effort := s.effort_request r
  refine ⟨?_, by rw [images, CameraSystem.published, bus]; rfl, ?_⟩
  · exact {
      staged := h.staged.request calm viewport aims
      followed := followed
      capacity := bus ▸ h.capacity
      unfailing := h.unfailing
      load := by omega }
  · have flight : (s.request r).framesAhead = s.framesAhead := by
      rw [framesAhead, framesAhead, service_request, inFlight_request]
    rw [ahead, ahead, flight]
    omega

/-- Where nothing is left to do, the visitor may focus and then take a picture. -/
theorem Hosts.capture {camera : OpenCamera} {n : Nat} (h : s.Hosts id waiting [])
    (stays : s.Stays n camera []) (quiet : s.Quiet) (jobs : s.jobs = []) {tap : Tap}
    (aims : ({} : Settings).focusMapper.Computes tap) (visible : Rect) :
    ∃ t, (s.focusOn tap).2.takePicture visible = (true, t) ∧ t.Hosts id waiting [] ∧
      t.Stays n camera [] ∧ t.Shooting camera visible s.images ∧ t.images = s.images ∧
      t.effort ≤ 19 ∧ t.ahead waiting [] ≤ s.ahead waiting [] + 38 := by
  have rested := quiet.effort jobs
  have costs : (Request.focusOn tap).effort = 12 ∧ (Request.takePicture visible).effort = 7 :=
    ⟨rfl, rfl⟩
  have light := s.effort_request (.focusOn tap)
  have light' := (s.request (.focusOn tap)).effort_request (.takePicture visible)
  obtain ⟨focused, images, nearer⟩ := h.request (r := .focusOn tap) rfl
    (fun _ same => Request.focusOn.inj same ▸ aims) (by
    rw [List.length_nil]
    omega)
  obtain ⟨taken, images', nearer'⟩ := focused.request (r := .takePicture visible) rfl nofun (by
    rw [List.length_nil]
    omega)
  have stays := stays.focusOn h.staged tap
  have jobs : (s.focusOn tap).2.jobs = [] := by
    refine Eq.trans ?_ jobs
    simp only [CameraSystem.focusOn, submit]
    repeat' (first | rfl | split)
  obtain ⟨t, accepted, stays, shooting⟩ := stays.takePicture focused.staged jobs visible
  have made : (s.request (.focusOn tap)).request (.takePicture visible) = t :=
    congrArg Prod.snd accepted
  rw [made] at taken images' nearer' light'
  exact ⟨t, accepted, taken, stays, images ▸ shooting, images'.trans images, by omega, by omega⟩

/-- Where the camera stays open and no capture is under way, the visitor may close it. -/
theorem Hosts.close {camera : OpenCamera} {n : Nat} (h : s.Hosts id waiting unread)
    (stays : s.Stays n camera unread) (jobs : s.jobs = [])
    (light : s.effort + 2 * unread.length ≤ 19) :
    s.pause.barrier.2.Hosts id waiting unread ∧ s.pause.barrier.2.Closing n s.pause.barrier.1 ∧
      s.pause.barrier.2.images = s.images ∧
      s.pause.barrier.2.ahead waiting unread ≤ s.ahead waiting unread + 22 := by
  have costs : Request.pause.effort = 10 ∧ Request.barrier.effort = 1 := ⟨rfl, rfl⟩
  have paused := s.effort_request .pause
  obtain ⟨hosts, images, nearer⟩ := h.request (r := .pause) rfl nofun (by omega)
  obtain ⟨hosts', images', nearer'⟩ := hosts.request (r := .barrier) rfl nofun (by omega)
  refine ⟨hosts', stays.close h.staged jobs, images'.trans images, ?_⟩
  show ((s.request .pause).request .barrier).ahead waiting unread ≤ _
  omega

end CameraSystem

/-! ## The moves of a tour -/

/-- The visitor goes on, or a task of the system makes a step. -/
inductive TourMove where
  | visitor
  | task (t : Task)
deriving DecidableEq, Repr

/-- What the visitor will still ask of the system, by twice the effort of it, with the two steps
that are not paid for by an event that is read: to put the picture away and to be done. -/
def TourPhase.cost (swaps : Nat) : TourPhase → Nat
  | .opening => 80 * swaps + 62
  | .capturing | .captured _ => 80 * swaps + 24
  | .swapping left => 80 * left + 23
  | .closing _ => 1
  | .finished | .failed _ => 0

namespace Tour

variable {t u : Tour} {n : Nat} {waiting unread : List Event}

/-- A picture can be put away at once. -/
def enabled (t : Tour) : TourMove → Bool
  | .visitor =>
    match t.phase with
    | .captured _ => true
    | _ => t.ready
  | .task task => t.system.ready task

def move (t : Tour) : TourMove → Tour
  | .visitor =>
    match t.phase with
    | .captured _ => t.proceed
    | _ => t.step
  | .task task => { t with system := t.system.step task }

/-- The tour after some moves, if each could be made in its turn. -/
def run? (t : Tour) : List TourMove → Option Tour
  | [] => some t
  | m :: rest => if t.enabled m then (t.move m).run? rest else none

/-- With no picture to put away the visitor waits for what the phase needs. -/
theorem visitor_eq (uncaptured : ∀ image, t.phase ≠ .captured image) :
    t.enabled .visitor = t.ready ∧ t.move .visitor = t.step := by
  constructor
  · show (match t.phase with
      | .captured _ => true
      | _ => t.ready) = t.ready
    split
    · next captured => exact absurd captured (uncaptured _)
    · rfl
  · show (match t.phase with
      | .captured _ => t.proceed
      | _ => t.step) = t.step
    split
    · next captured => exact absurd captured (uncaptured _)
    · rfl

theorem run?_cons_eq_some {m : TourMove} {rest : List TourMove} :
    t.run? (m :: rest) = some u ↔ t.enabled m = true ∧ (t.move m).run? rest = some u := by
  simp [run?]

/-- How far a tour has come. -/
inductive Going (t : Tour) (unread : List Event) : Prop
  | opening (phase : t.phase = .opening) (awaited : t.system.Awaited 1 unread)
    (images : t.system.images = [])
  | capturing (camera : OpenCamera) (phase : t.phase = .capturing)
    (stays : t.system.Stays 1 camera unread)
    (shooting : t.system.Shooting camera (.ofSides 720 1280) [])
    (unseen : unread.filterMap Event.image? = t.system.images)
    (load : t.system.effort + 2 * unread.length ≤ 19)
  | captured (camera : OpenCamera) (image : CapturedImage) (phase : t.phase = .captured image)
    (stays : t.system.Stays 1 camera unread) (jobs : t.system.jobs = [])
    (images : t.system.images.length = 1) (load : t.system.effort + 2 * unread.length ≤ 19)
  | swapping (left n : Nat) (phase : t.phase = .swapping left) (awaited : t.system.Awaited n unread)
    (count : n + left = t.plan.swaps + 1) (images : t.system.images.length = 1)
  | closing (barrier : Nat) (phase : t.phase = .closing barrier)
    (closing : t.system.Closing (t.plan.swaps + 1) barrier) (images : t.system.images.length = 1)
  | finished (barrier : Nat) (phase : t.phase = .finished)
    (closing : t.system.Closing (t.plan.swaps + 1) barrier) (quiet : t.system.Quiet)
    (images : t.system.images.length = 1)

/-- No more than `n` moves are ahead of the tour. -/
def Within (n : Nat) (t : Tour) : Prop :=
  ∃ waiting unread, t.plan.viewport = ⟨720, 1280⟩ ∧
    t.system.Hosts t.subscriber waiting unread ∧ t.Going unread ∧
    t.system.ahead waiting unread + t.phase.cost t.plan.swaps ≤ n

/-- Whatever task makes a step, the tour goes on as it did. -/
theorem Going.step (h : t.Going unread) (hosts : t.system.Hosts t.subscriber waiting unread)
    {task : Task} (ready : t.system.ready task = true) {fresh : List Event}
    (published : (t.system.step task).published = t.system.published ++ fresh)
    (load : (t.system.step task).effort + 2 * (unread ++ fresh).length ≤
      t.system.effort + 2 * unread.length) :
    { t with system := t.system.step task }.Going (unread ++ fresh) := by
  have staged := hosts.staged
  have sound := staged.sound
  cases h with
  | opening phase awaited images =>
    exact .opening phase (awaited.step staged ready published)
      ((CameraSystem.images_of_none sound awaited.jobs ready).trans images)
  | capturing camera phase stays shooting unseen light =>
    refine .capturing camera phase (stays.step staged ready published) ?_ ?_
      (Nat.le_trans load light)
    · exact shooting.step staged.steady.previewed.tuned stays.lingers staged.visible
        (staged.turned stays.lingers.slot) (staged.develops stays.lingers) ready
    · show (unread ++ fresh).filterMap Event.image? = (t.system.step task).images
      rw [List.filterMap_append, unseen, CameraSystem.images_append published]
  | captured camera image phase stays jobs images light =>
    exact .captured camera image phase (stays.step staged ready published)
      (CameraSystem.jobs_of_none jobs task)
      ((congrArg _ (CameraSystem.images_of_none sound jobs ready)).trans images)
      (Nat.le_trans load light)
  | swapping left n phase awaited count images =>
    exact .swapping left n phase (awaited.step staged ready published) count
      ((congrArg _ (CameraSystem.images_of_none sound awaited.jobs ready)).trans images)
  | closing barrier phase closing images =>
    exact .closing barrier phase (closing.step staged ready published)
      ((congrArg _ (CameraSystem.images_of_none sound closing.jobs ready)).trans images)
  | finished barrier phase closing quiet images =>
    exact .finished barrier phase (closing.step staged ready published)
      (quiet.step staged.senders closing.jobs ready).1
      ((congrArg _ (CameraSystem.images_of_none sound closing.jobs ready)).trans images)

/-! ## What the visitor does -/

theorem visible_of_viewport {p : TourPlan} (viewport : p.viewport = ⟨720, 1280⟩) :
    p.visible = .ofSides 720 1280 := by
  rw [TourPlan.visible, viewport]
  rfl

/-- The middle of the viewport can be focused on, whatever the preview. -/
theorem computes_middle {p : TourPlan} (viewport : p.viewport = ⟨720, 1280⟩) :
    ({} : Settings).focusMapper.Computes p.middle := by
  intro preview rotation capabilities
  have middle : p.middle = ⟨.finite 360, .finite 640⟩ := by
    rw [TourPlan.middle, viewport]
    decide +kernel
  have near {n : Rat} (positive : 0 ≤ n) (extent : UInt32) : Near (.finite n) extent := by
    refine ⟨nofun, ?_⟩
    rintro _ ⟨⟩
    have sign : 0 ≤ 10 ^ 6 * (extent.toNat : Rat) := by positivity
    linarith
  have valid : ({} : Settings).fault? = none := by decide +kernel
  have short : max preview.width.toNat preview.height.toNat /
      ({} : Settings).areaDivisor.toNat < 2 ^ 31 := by
    have wide := preview.width.toNat_lt
    have high := preview.height.toNat_lt
    show max preview.width.toNat preview.height.toNat / 8 < 2 ^ 31
    omega
  have safe : ({} : Settings).focusMapper.Safe p.middle preview rotation capabilities :=
    FocusMapper.safe_of_near valid short (middle ▸ near (by norm_num) _)
      (middle ▸ near (by norm_num) _)
  obtain ⟨result, made, -⟩ := safe
  exact Option.ne_none_iff_exists'.2 ⟨result, made⟩

/-- The visitor focuses and takes the picture once the first camera is ready. -/
theorem Within.capture {camera : OpenCamera} (viewport : t.plan.viewport = ⟨720, 1280⟩)
    (hosts : t.system.Hosts t.subscriber waiting []) (stays : t.system.Stays 1 camera [])
    (quiet : t.system.Quiet) (jobs : t.system.jobs = []) (images : t.system.images = []) :
    t.capture.Within (t.system.ahead waiting [] + (80 * t.plan.swaps + 62)) := by
  obtain ⟨s, accepted, hosts, stays, shooting, images', light, ahead⟩ :=
    hosts.capture stays quiet jobs (computes_middle viewport) t.plan.visible
  rw [images] at shooting images'
  rw [visible_of_viewport viewport] at shooting
  have captured : t.capture = { t with system := s, phase := .capturing } := by
    simp only [Tour.capture, accepted]
  rw [captured]
  refine ⟨waiting, [], viewport, hosts, ?_, ?_⟩
  · exact .capturing camera rfl stays shooting images'.symm light
  · show s.ahead waiting [] + (80 * t.plan.swaps + 24) ≤ _
    omega

/-- The visitor swaps the cameras once more, or closes. -/
theorem Within.moveOn {camera : OpenCamera} {left : Nat} (viewport : t.plan.viewport = ⟨720, 1280⟩)
    (hosts : t.system.Hosts t.subscriber waiting unread) (stays : t.system.Stays n camera unread)
    (jobs : t.system.jobs = []) (count : n + left = t.plan.swaps + 1)
    (images : t.system.images.length = 1)
    (light : t.system.effort + 2 * unread.length ≤ 19) :
    (t.moveOn left).Within (t.system.ahead waiting unread + (80 * left + 23)) := by
  cases left with
  | succ left =>
    have cost : Request.swap.effort = 40 := rfl
    obtain ⟨hosts', images', ahead⟩ := hosts.request (r := .swap) rfl nofun (by omega)
    refine ⟨waiting, unread, viewport, hosts', ?_, ?_⟩
    · exact .swapping left (n + 1) rfl (stays.swap hosts.staged jobs)
        ((Nat.add_right_comm n 1 left).trans count) ((congrArg _ images').trans images)
    · show (t.system.request .swap).ahead waiting unread + (80 * left + 23) ≤ _
      omega
  | zero =>
    obtain rfl : n = t.plan.swaps + 1 := count
    obtain ⟨hosts', closing, images', ahead⟩ := hosts.close stays jobs light
    refine ⟨waiting, unread, viewport, hosts', ?_, ?_⟩
    · exact .closing _ rfl closing ((congrArg _ images').trans images)
    · exact Nat.add_le_add_right ahead 1

theorem step_of_event {e : Event} {subscribers : List Subscriber} (listens : t.listens = true)
    (found : t.system.bus.receive t.subscriber =
      (.event e, { t.system.bus with subscribers := subscribers })) :
    t.step = { t with system := t.system.withSubscribers subscribers }.hear e := by
  unfold step
  split
  · next closing => simp [Tour.listens, closing] at listens
  · simp only [listens, found, Bool.not_true, Bool.false_eq_true, if_false]
    rfl

/-- Events that the visitor does not wait for are passed over. -/
theorem hear_of_unawaited {e : Event} (unfailing : e.fails = false) (silent : e.isReady = false)
    (seen : e.image? = none ∨ t.phase ≠ .capturing) : t.hear e = t := by
  unfold hear
  split
  · cases unfailing
  · cases silent
  · next capturing =>
    rcases seen with unseen | other
    · cases unseen
    · exact absurd capturing other
  · cases silent
  · rfl

theorem hear_ready (t : Tour) (facing : Facing) (size : Size) (display : UInt32) :
    t.hear (.ready facing size display) =
      match t.phase with
      | .opening => t.capture
      | .swapping left => t.moveOn left
      | _ => t := by
  unfold hear
  split <;> simp_all

/-- The tour stays where it is if the visitor waits for something else. -/
theorem Within.pass {e : Event} {subscribers : List Subscriber}
    (viewport : t.plan.viewport = ⟨720, 1280⟩)
    (hosts : (t.system.withSubscribers subscribers).Hosts t.subscriber waiting unread)
    (unfailing : e.fails = false) (silent : e.isReady = false)
    (seen : e.image? = none ∨ t.phase ≠ .capturing)
    (still : { t with system := t.system.withSubscribers subscribers }.Going unread) :
    ({ t with system := t.system.withSubscribers subscribers }.hear e).Within
      ((t.system.withSubscribers subscribers).ahead waiting unread +
        t.phase.cost t.plan.swaps) := by
  let u := { t with system := t.system.withSubscribers subscribers }
  have heard : u.hear e = u := hear_of_unawaited unfailing silent seen
  rw [heard]
  exact ⟨waiting, unread, viewport, hosts, still, Nat.le_refl _⟩

/-- The image that comes is the one that was asked for, and nothing is under way after it. -/
theorem Within.hear_capturing {e : Event} {subscribers : List Subscriber} {camera : OpenCamera}
    (viewport : t.plan.viewport = ⟨720, 1280⟩) (phase : t.phase = .capturing)
    (stays : t.system.Stays 1 camera (e :: unread))
    (shooting : t.system.Shooting camera (.ofSides 720 1280) [])
    (unseen : (e :: unread).filterMap Event.image? = t.system.images)
    (light : t.system.effort + 2 * (e :: unread).length ≤ 19)
    (hosts : (t.system.withSubscribers subscribers).Hosts t.subscriber waiting unread)
    (unfailing : e.fails = false) :
    ({ t with system := t.system.withSubscribers subscribers }.hear e).Within
      ((t.system.withSubscribers subscribers).ahead waiting unread +
        t.phase.cost t.plan.swaps) := by
  let u := { t with system := t.system.withSubscribers subscribers }
  have remains : u.system.Stays 1 camera unread :=
    stays.read (List.subset_cons_self e unread) subscribers
  have shooting : u.system.Shooting camera (.ofSides 720 1280) [] :=
    shooting.of_same rfl rfl rfl rfl rfl
  have spare : u.system.effort + 2 * unread.length ≤ 19 := by
    rw [List.length_cons] at light
    show t.system.effort + _ ≤ _
    omega
  cases image : e.image? with
  | none =>
    rw [List.filterMap_cons_none image] at unseen
    exact .pass viewport hosts unfailing (stays.silent e (by simp)) (.inl image)
      (.capturing camera phase remains shooting unseen spare)
  | some image' =>
    rw [List.filterMap_cons_some image] at unseen
    obtain ⟨jobs, count⟩ := shooting.ended fun none => by
      cases unseen.trans none
    cases e with
    | imageCaptured taken =>
      have captured : u.hear (.imageCaptured taken) = { u with phase := .captured taken } := by
        simp [Tour.hear, show u.phase = .capturing from phase]
      rw [captured, phase]
      exact ⟨waiting, unread, viewport, hosts, .captured camera taken rfl remains jobs count spare,
        Nat.le_refl _⟩
    | _ => cases image

/-- An event that was read has the tour go on, or leaves it where it is. -/
theorem Within.hear {e : Event} {subscribers : List Subscriber}
    (viewport : t.plan.viewport = ⟨720, 1280⟩) (going : t.Going (e :: unread))
    (hosts : (t.system.withSubscribers subscribers).Hosts t.subscriber waiting unread)
    (unfailing : e.fails = false) (listens : t.listens = true) :
    ({ t with system := t.system.withSubscribers subscribers }.hear e).Within
      ((t.system.withSubscribers subscribers).ahead waiting unread +
        t.phase.cost t.plan.swaps) := by
  let u := { t with system := t.system.withSubscribers subscribers }
  cases going with
  | opening phase awaited images =>
    cases isReady : e.isReady with
    | false =>
      exact .pass viewport hosts unfailing isReady (.inr (by simp [phase]))
        (.opening phase (awaited.read isReady subscribers) images)
    | true =>
      cases e with
      | ready facing size display =>
        obtain ⟨rfl, quiet, camera, stays⟩ := awaited.arrived
        rw [hear_ready, show u.phase = .opening from phase]
        exact .capture (t := u) viewport hosts (stays.read (List.Subset.refl _) subscribers)
          (quiet.of_same (t.system.undisturbed_read _) (t.system.sameDemand_read _)) awaited.jobs
          images
      | _ => cases isReady
  | capturing camera phase stays shooting unseen light =>
    exact .hear_capturing viewport phase stays shooting unseen light hosts unfailing
  | captured camera image phase => simp [Tour.listens, phase] at listens
  | swapping left n phase awaited count images =>
    cases isReady : e.isReady with
    | false =>
      exact .pass viewport hosts unfailing isReady (.inr (by simp [phase]))
        (.swapping left n phase (awaited.read isReady subscribers) count images)
    | true =>
      cases e with
      | ready facing size display =>
        obtain ⟨rfl, quiet, camera, stays⟩ := awaited.arrived
        rw [hear_ready, show u.phase = .swapping left from phase]
        refine .moveOn (t := u) viewport hosts (stays.read (List.Subset.refl _) subscribers)
          awaited.jobs count images ?_
        show t.system.effort + 0 ≤ 19
        rw [quiet.effort awaited.jobs]
        decide
      | _ => cases isReady
  | closing barrier phase | finished barrier phase => simp [Tour.listens, phase] at listens

/-! ## Any order of moves -/

/-- As long as there is something to read the visitor can go on. -/
theorem ready_of_unread {e : Event} (hosts : t.system.Hosts t.subscriber waiting (e :: unread))
    (listens : t.listens = true) : t.ready = true := by
  obtain ⟨subscribers, found, -⟩ := hosts.read
  unfold ready
  split
  · next closing => simp [Tour.listens, closing] at listens
  · simp [listens, found]

/-- A visitor who listens and can go on has something to read. -/
theorem unread_of_ready (hosts : t.system.Hosts t.subscriber waiting unread)
    (listens : t.listens = true) (ready : t.ready = true) : ∃ e rest, unread = e :: rest := by
  cases unread with
  | cons e rest => exact ⟨e, rest, rfl⟩
  | nil =>
    have none := hosts.followed.unread.receive_nil hosts.followed.going
    unfold Tour.ready at ready
    split at ready
    · next closing => simp [Tour.listens, closing] at listens
    · simp [none] at ready

theorem Within.visitor (viewport : t.plan.viewport = ⟨720, 1280⟩)
    (hosts : t.system.Hosts t.subscriber waiting unread) (going : t.Going unread)
    (enabled : t.enabled .visitor = true) :
    ∃ left, left < t.system.ahead waiting unread + t.phase.cost t.plan.swaps ∧
      (t.move .visitor).Within left := by
  by_cases listens : t.listens = true
  · obtain ⟨same, moved⟩ := visitor_eq (t := t) fun image captured => by
      simp [Tour.listens, captured] at listens
    have ready : t.ready = true := same.symm.trans enabled
    obtain ⟨e, rest, rfl⟩ := unread_of_ready hosts listens ready
    obtain ⟨subscribers, found, after, ahead⟩ := hosts.read
    rw [moved, step_of_event listens found, ← ahead]
    exact ⟨_, Nat.add_lt_add_right (Nat.lt_add_of_pos_right Nat.two_pos) _,
      Within.hear viewport going after (hosts.unfailing e (by simp)) listens⟩
  · cases going with
    | opening phase | capturing _ phase | swapping _ _ phase =>
      simp [Tour.listens, phase] at listens
    | captured camera image phase stays jobs images light =>
      have moved : t.move .visitor = t.moveOn t.plan.swaps := by
        simp only [Tour.move, proceed, phase]
      rw [moved, phase]
      exact ⟨_, Nat.add_lt_add_left (Nat.lt_succ_self _) _,
        Within.moveOn viewport hosts stays jobs (Nat.add_comm _ _) images light⟩
    | closing barrier phase closing images =>
      have passed : t.system.passed barrier = true := by
        simpa [Tour.enabled, Tour.ready, phase] using enabled
      have moved : t.move .visitor = { t with phase := .finished } := by
        simp only [Tour.move, Tour.step, phase, if_pos passed]
      have quiet : t.system.Quiet := by
        rcases closing.progress with ⟨next, -⟩ | ⟨-, quiet⟩
        · simp [CameraSystem.passed, hosts.staged.uncrashed, ← next] at passed
        · exact quiet
      rw [moved, phase]
      exact ⟨_, Nat.add_lt_add_left Nat.zero_lt_one _, waiting, unread, viewport, hosts,
        .finished barrier rfl closing quiet images, Nat.le_refl _⟩
    | finished barrier phase => simp [Tour.enabled, Tour.ready, Tour.listens, phase] at enabled

/-- Every move brings the tour nearer to its end. -/
theorem Within.move {m : TourMove} (h : t.Within n) (enabled : t.enabled m = true) :
    ∃ left, left < n ∧ (t.move m).Within left := by
  obtain ⟨waiting, unread, viewport, hosts, going, le⟩ := h
  cases m with
  | visitor =>
    obtain ⟨left, less, within⟩ := Within.visitor viewport hosts going enabled
    exact ⟨left, Nat.lt_of_lt_of_le less le, within⟩
  | task task =>
    obtain ⟨fresh, waiting', hosts', published, less, load⟩ := hosts.step enabled
    refine ⟨_, ?_, waiting', unread ++ fresh, viewport, hosts',
      going.step hosts enabled published load, Nat.le_refl _⟩
    exact Nat.lt_of_lt_of_le (Nat.add_lt_add_right less _) le

theorem Within.run {moves : List TourMove} (h : t.Within n) (run : t.run? moves = some u) :
    ∃ left, left + moves.length ≤ n ∧ u.Within left := by
  induction moves generalizing t n with
  | nil =>
    cases run
    exact ⟨n, Nat.le_refl _, h⟩
  | cons m rest ih =>
    obtain ⟨allowed, run⟩ := run?_cons_eq_some.1 run
    obtain ⟨left, less, within⟩ := h.move allowed
    obtain ⟨left', le, within⟩ := ih within run
    exact ⟨left', by rw [List.length_cons]; omega, within⟩

/-- A tour that is not over can go on. -/
theorem Within.enabled (h : t.Within n) (unfinished : t.phase ≠ .finished) :
    ∃ m, t.enabled m = true := by
  obtain ⟨waiting, unread, viewport, hosts, going, -⟩ := h
  have task (ready : ∃ task, t.system.ready task = true) : ∃ m, t.enabled m = true := by
    obtain ⟨task, ready⟩ := ready
    exact ⟨.task task, ready⟩
  have visitor (uncaptured : ∀ image, t.phase ≠ .captured image) (ready : t.ready = true) :
      ∃ m, t.enabled m = true :=
    ⟨.visitor, (visitor_eq uncaptured).1.trans ready⟩
  have reads {e : Event} {rest : List Event} (some : unread = e :: rest)
      (listens : t.listens = true) : ∃ m, t.enabled m = true := by
    refine visitor (fun image captured => ?_) (ready_of_unread (some ▸ hosts) listens)
    simp [Tour.listens, captured] at listens
  cases going with
  | opening phase awaited =>
    cases unread with
    | nil => exact task (awaited.ready hosts.staged)
    | cons e rest => exact reads rfl (by simp [Tour.listens, phase])
  | capturing camera phase stays shooting unseen =>
    cases unread with
    | nil => exact task (shooting.ready hosts.staged.sound hosts.staged.visible unseen.symm)
    | cons e rest => exact reads rfl (by simp [Tour.listens, phase])
  | captured camera image phase => exact ⟨.visitor, by simp [Tour.enabled, phase]⟩
  | swapping left n phase awaited =>
    cases unread with
    | nil => exact task (awaited.ready hosts.staged)
    | cons e rest => exact reads rfl (by simp [Tour.listens, phase])
  | closing barrier phase closing =>
    rcases closing.progress with ⟨-, before, biding⟩ | ⟨passed, -⟩
    · exact task ⟨.executor, biding.ready⟩
    · exact visitor (by simp [phase]) (by simp [Tour.ready, phase, CameraSystem.passed, passed])
  | finished barrier phase => exact absurd phase unfinished

theorem Within.unfailing (h : t.Within n) (e : TourError) : t.phase ≠ .failed e := by
  obtain ⟨waiting, unread, -, -, going, -⟩ := h
  cases going with
  | opening phase | capturing _ phase | captured _ _ phase | swapping _ _ phase
  | closing _ phase | finished _ phase => simp [phase]

theorem plan_move (t : Tour) (m : TourMove) : (t.move m).plan = t.plan := by
  have moveOn (t : Tour) (left : Nat) : (t.moveOn left).plan = t.plan := by
    cases left <;> rfl
  have hear (t : Tour) (e : Event) : (t.hear e).plan = t.plan := by
    unfold Tour.hear capture
    repeat' (first | rfl | exact moveOn _ _ | split)
  cases m with
  | task task => rfl
  | visitor =>
    simp only [Tour.move, proceed, step]
    repeat' (first | rfl | exact moveOn _ _ | exact hear _ _ | split)

theorem plan_of_run? {moves : List TourMove} (run : t.run? moves = some u) : u.plan = t.plan := by
  induction moves generalizing t with
  | nil =>
    cases run
    rfl
  | cons m rest ih =>
    obtain ⟨-, run⟩ := run?_cons_eq_some.1 run
    exact (ih run).trans (t.plan_move m)

end Tour

end Viewfinder
