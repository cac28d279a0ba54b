import Viewfinder.Proofs.Flight
import Viewfinder.Proofs.Headroom
import Viewfinder.Proofs.Reading
import Viewfinder.Proofs.RightAngles
import Viewfinder.Proofs.Schedules
import Viewfinder.Proofs.Shooting
import Viewfinder.Tour

/-!
# Cameras in turn

The stretches of a tour, as its system goes through them: the next camera is on its way, and its
announcement is the last that is published (`Awaited`); the camera stays open while a picture is
taken (`Stays`); the last camera is closed again (`Closing`). A step of a task stays in its stretch,
and so does the visitor who reads; what the visitor asks for leads to the next one.
-/

namespace Viewfinder

/-! ## The picture -/

namespace Simulator

/-- Either camera of a phone is offered the same preview for a portrait viewport. -/
theorem negotiate?_dual : ∀ spec ∈ dual, Preview.negotiate? spec.capabilities.previewSizes
    ⟨720, 1280⟩ ({} : Settings).aspectTolerance = some ⟨1920, 1080⟩ := by
  decide +kernel

/-- Either camera of a phone is mounted at a right angle, and so are its stills turned. -/
theorem output_dual {spec : CameraSpec} (mem : spec ∈ dual) (turn : QuarterTurn)
    (angle : Option UInt32) :
    (Orientation.resolve spec.sensor.mounting spec.sensor.facing turn angle).output ∈
      [(0 : UInt32), 90, 180, 270] := by
  have mounted : 90 ∣ spec.sensor.mounting.toNat := by
    simp only [dual, List.mem_cons, List.not_mem_nil, or_false] at mem
    rcases mem with rfl | rfl <;> decide
  exact mem_rightAngles (dvd_toNat_outputRotation mounted) (toNat_displayRotation_lt _ _ _)

/-- What the viewport shows of a frame lies within it, and can be encoded. -/
theorem intersect?_frame {rotation : UInt32} (right : rotation ∈ [(0 : UInt32), 90, 180, 270]) :
    ∃ crop region, visiblePart ⟨1920, 1080⟩ (.ofSides 720 1280) rotation = some crop ∧
      crop.intersect? (if rotation % 180 = 0 then .ofSides 1920 1080 else .ofSides 1080 1920) =
        some (some region) ∧
      (region.right.toInt - region.left.toInt).toNat ≤ 65535 ∧
      (region.bottom.toInt - region.top.toInt).toNat ≤ 65535 := by
  simp only [List.mem_cons, List.not_mem_nil, or_false] at right
  have checked : (visiblePart ⟨1920, 1080⟩ (.ofSides 720 1280) rotation).any fun crop =>
      (crop.intersect?
        (if rotation % 180 = 0 then .ofSides 1920 1080 else .ofSides 1080 1920)).any
          fun common => common.any fun region =>
            (region.right.toInt - region.left.toInt).toNat ≤ 65535 ∧
              (region.bottom.toInt - region.top.toInt).toNat ≤ 65535 := by
    rcases right with rfl | rfl | rfl | rfl <;> decide +kernel
  obtain ⟨crop, cropped, cuts⟩ := Option.any_eq_true _ _ |>.1 checked
  obtain ⟨common, cut, nonempty⟩ := Option.any_eq_true _ _ |>.1 cuts
  obtain ⟨region, rfl, small⟩ := Option.any_eq_true _ _ |>.1 nonempty
  exact ⟨crop, region, cropped, cut, of_decide_eq_true small⟩

/-- A frame that comes whole makes stills. -/
theorem makesStills_frame {faults : SimulatorFaults} (whole : faults.corruptFrames = false)
    (id : Nat) (quality : UInt8) :
    (frame faults id ⟨1920, 1080⟩).MakesStills (.ofSides 720 1280) quality := by
  intro rotation right
  obtain ⟨raster, decoded, width, height, -⟩ :=
    decode_frame whole id (show (⟨1920, 1080⟩ : Size).isEmpty = false by decide)
  have bounds : (raster.rotate rotation).bounds =
      if rotation % 180 = 0 then .ofSides 1920 1080 else .ofSides 1080 1920 := by
    simp only [List.mem_cons, List.not_mem_nil, or_false] at right
    rcases right with rfl | rfl | rfl | rfl <;>
      simp [Raster.rotate, Raster.bounds, width, height]
  obtain ⟨crop, region, cropped, cut, narrow, low⟩ := intersect?_frame right
  have fits : ¬(65535 < ((raster.rotate rotation).crop region).width ∨
      65535 < ((raster.rotate rotation).crop region).height) := by
    simp only [Raster.crop, Raster.width_generate, Raster.height_generate]
    omega
  exact ⟨crop, _, cropped, Frame.still_eq_ok.2 ⟨raster, region, _, decoded, bounds ▸ cut,
    by rw [Raster.toJpeg, if_neg fits], rfl⟩⟩

theorem complete_dual : CameraSystem.Complete dual := by
  intro facing
  cases facing <;> decide

end Simulator

/-! ## Cameras in turn -/

/-- The facing of the `n`th camera that is opened, the first of which is at the front. -/
def Facing.nth (n : Nat) : Facing := if n % 2 = 1 then .front else .back

theorem Facing.nth_succ (n : Nat) : nth (n + 1) = (nth n).toggled := by
  unfold nth
  rcases Nat.mod_two_eq_zero_or_one n with even | odd
  · simp [even, show (n + 1) % 2 = 1 by omega, toggled]
  · simp [odd, show (n + 1) % 2 = 0 by omega, toggled]

namespace Plan

variable {p : Plan} {n : Nat}

/-- The `n`th camera is to be open. -/
structure Opens (p : Plan) (n : Nat) : Prop where
  requests : p.requests = ⟨true, .nth n, n⟩
  camera : p.outlook.camera.isSome = true
  history : p.outlook.history.length = n

/-- The `n`th camera is to be closed again. -/
structure Closes (p : Plan) (n : Nat) : Prop where
  requests : p.requests = ⟨false, .nth n, n⟩
  camera : p.outlook.camera = none
  history : p.outlook.history.length = n

theorem Opens.swap (h : p.Opens n) : (p.steer Simulator.dual .swap).Opens (n + 1) := by
  have found : (Simulator.dual.find? (·.sensor.facing = (Facing.nth n).toggled)).isSome = true := by
    cases (Facing.nth n).toggled <;> rfl
  obtain ⟨spec, found⟩ := Option.isSome_iff_exists.1 found
  have steered : p.steer Simulator.dual .swap =
      p.closes.opens Simulator.dual (Facing.nth n).toggled := by
    simp [steer, h.requests, Simulator.dual]
  rw [steered]
  refine ⟨?_, ?_, ?_⟩
  · simp [Plan.opens, closes, h.requests, Facing.nth_succ]
  · simp [Plan.opens, closes, Outlook.opens, found]
  · simp [Plan.opens, closes, Outlook.opens, found, h.history]

theorem Opens.pause (h : p.Opens n) : (p.steer Simulator.dual .pause).Closes n := by
  have steered : p.steer Simulator.dual .pause = p.closes := by simp [steer, h.requests]
  rw [steered]
  exact ⟨by simp [closes, h.requests], rfl, h.history⟩

end Plan

namespace CameraSystem

variable {s : CameraSystem (Simulator Ticket)} {cameras : List CameraSpec} {n : Nat}
  {unread fresh : List Event}

/-- The announcements that were published. -/
def announcements (s : CameraSystem (Simulator Ticket)) : List Event :=
  s.published.filter Event.isReady

/-- What every moment of a tour keeps of its system. -/
structure Staged (s : CameraSystem (Simulator Ticket)) : Prop where
  steady : s.Steady Simulator.dual
  rooted : s.executor.stage.Rooted
  settings : s.settings = {}
  whole : s.service.faults.corruptFrames = false
  viewport : s.viewport = ⟨720, 1280⟩
  aimed : ∀ tap, s.tap = some tap → ({} : Settings).focusMapper.Computes tap
  uncrashed : s.executor.stage ≠ .crashed

theorem Staged.visible (h : s.Staged) : s.viewport.isEmpty = false := by
  rw [h.viewport]
  rfl

theorem Staged.senders (h : s.Staged) : s.hasSenders = true := by
  simp [hasSenders, h.steady.inUse]

theorem Staged.sound (h : s.Staged) : s.Sound := h.steady.previewed.tuned.sound

theorem Staged.step (h : s.Staged) {task : Task} (ready : s.ready task = true) :
    (s.step task).Staged := by
  obtain ⟨held, secured⟩ := h.sound.secured
  have settings : (s.step task).settings = s.settings := by
    by_cases own : task = .executor
    · subst own
      exact settings_turn (secured.turn ready)
    · exact (s.step_undisturbed own).settings
  have plan := plan_step h.steady Simulator.complete_dual ready
  have tap : (s.step task).tap = s.tap ∨ (s.step task).tap = none := by
    by_cases own : task = .executor
    · subst own
      exact tap_of_turn (secured.turn ready)
    · exact .inl (s.tap_move_of_other (m := .task task) (fun eq => own (Move.task.inj eq)) nofun)
  exact {
    steady := h.steady.move (m := .task task) rfl ready
    rooted := rooted_move s (.task task) h.rooted
    settings := settings.trans h.settings
    whole := (congrArg _ (faults_step h.steady.willing secured ready)).trans h.whole
    viewport := (congrArg Plan.viewport plan).trans h.viewport
    aimed := fun made waits => by
      rcases tap with same | none
      · exact h.aimed made (same.symm.trans waits)
      · cases none.symm.trans waits
    uncrashed := by
      by_cases own : task = .executor
      · subst own
        intro crashed
        obtain ⟨made, waits, overflows⟩ := crashed_of_turn (secured.turn ready) crashed
        exact overflows (h.settings ▸ h.aimed made waits)
      · rw [(s.step_undisturbed own).executor]
        exact h.uncrashed }

/-- To read the bus changes nothing that matters to anybody else. -/
theorem Steady.read (h : s.Steady cameras) (subscribers : List Subscriber) :
    (s.withSubscribers subscribers).Steady cameras := by
  obtain ⟨⟨⟨⟨⟨held, secured⟩, attended, numbered, roster⟩, oriented, sized⟩, abreast, announced⟩,
    inUse, count, willing, turned⟩ := h
  refine ⟨⟨⟨⟨⟨held, ?_⟩, ?_, ?_, ?_⟩, ?_, ?_⟩, ?_, ?_⟩, inUse, count, willing, turned⟩
  · exact { secured with }
  · exact { attended with }
  · exact { numbered with }
  · exact { roster with }
  · exact { oriented with }
  · refine { sized with fitted := fun camera engaged => ?_ }
    obtain ⟨f, fitted⟩ := sized.fitted camera engaged
    exact ⟨f, { fitted with }⟩
  · intro camera slot visible senders
    exact (abreast camera slot visible senders).imp_right (Or.imp_right fun h => { h with })
  · exact announced.of_same rfl rfl rfl rfl

theorem undisturbed_read (s : CameraSystem (Simulator Ticket)) (subscribers : List Subscriber) :
    Undisturbed s (s.withSubscribers subscribers) :=
  ⟨rfl, rfl, rfl, rfl, rfl, rfl⟩

theorem sameDemand_read (s : CameraSystem (Simulator Ticket)) (subscribers : List Subscriber) :
    SameDemand s (s.withSubscribers subscribers) :=
  ⟨rfl, rfl, rfl, rfl, rfl⟩

theorem Staged.read (h : s.Staged) (subscribers : List Subscriber) :
    (s.withSubscribers subscribers).Staged :=
  { h with steady := h.steady.read subscribers }

theorem Staged.request (h : s.Staged) {r : Request} (calm : (Move.request r).calm = true)
    (viewport : (s.request r).viewport = s.viewport)
    (aims : ∀ tap, r = .focusOn tap → ({} : Settings).focusMapper.Computes tap) :
    (s.request r).Staged where
  steady := h.steady.move (m := .request r) calm h.steady.inUse
  rooted := rooted_move s (.request r) h.rooted
  settings := (s.request_undisturbed r).settings.trans h.settings
  whole := by
    rw [service_request]
    exact h.whole
  viewport := viewport.trans h.viewport
  aimed tap waits := by
    by_cases asks : ∃ made, r = .focusOn made
    · obtain ⟨made, rfl⟩ := asks
      change (s.focusOn made).2.tap = some tap at waits
      rcases s.focusOn_cases made with ⟨-, refused⟩ | ⟨camera, -, -, -, kept, -⟩
      · rw [refused] at waits
        exact h.aimed tap waits
      · exact Option.some.inj (kept.symm.trans waits) ▸ aims made rfl
    · refine h.aimed tap (Eq.trans (Eq.symm ?_) waits)
      exact s.tap_move_of_other (m := .request r) nofun fun made eq =>
        asks ⟨made, Move.request.inj eq⟩
  uncrashed := by
    rw [(s.request_undisturbed r).executor]
    exact h.uncrashed

theorem Staged.plan_request (h : s.Staged) (r : Request) :
    (s.request r).plan = s.plan.steer Simulator.dual r := by
  rw [CameraSystem.plan_request, h.steady.cameras]

/-- The open camera is one of the two. -/
theorem Staged.spec (h : s.Staged) {camera : OpenCamera} (slot : s.slot = some camera) :
    ∃ f, s.Fitted camera f ∧ f.spec ∈ Simulator.dual := by
  obtain ⟨held, secured⟩ := h.sound.secured
  obtain ⟨f, fitted⟩ :=
    h.steady.previewed.tuned.sized.fitted camera (secured.engaged?_of_slot slot)
  exact ⟨f, fitted, h.steady.cameras ▸ List.mem_of_find?_eq_some fitted.present⟩

theorem Staged.negotiated (h : s.Staged) {camera : OpenCamera} (slot : s.slot = some camera) :
    s.negotiated? camera = some ⟨1920, 1080⟩ := by
  obtain ⟨f, fitted, mem⟩ := h.spec slot
  rw [negotiated?, fitted.capabilities, h.viewport, h.settings]
  exact Simulator.negotiate?_dual f.spec mem

/-- The open camera is turned by a right angle. -/
theorem Staged.turned (h : s.Staged) {camera : OpenCamera} (slot : s.slot = some camera)
    (o : Orientation) (turned : s.orientation = some o) :
    o.output ∈ [(0 : UInt32), 90, 180, 270] := by
  obtain ⟨f, fitted, mem⟩ := h.spec slot
  have oriented := h.steady.previewed.tuned.oriented.opened camera slot
  obtain rfl := Option.some.inj (turned.symm.trans oriented)
  rw [resolveOrientation, fitted.sensor]
  exact Simulator.output_dual mem _ _

/-- Whatever frame comes while the camera stays open makes stills. -/
theorem Staged.develops (h : s.Staged) {camera : OpenCamera} (lingers : s.Lingers camera) :
    s.Develops (.ofSides 720 1280) := by
  intro device ticket frame served
  have tuned := h.steady.previewed.tuned
  obtain ⟨held, secured⟩ := h.sound.secured
  obtain ⟨own, d, get, -, rfl⟩ := secured.holds.fire_device tuned.sound.attended.serves served
  subst own
  obtain ⟨f, fitted, preview⟩ :=
    lingers.preview h.steady h.rooted h.visible (h.negotiated lingers.slot)
  have same : d.fitting = f :=
    Option.some.inj ((secured.holds.last? tuned.sized.newest get).symm.trans fitted.last)
  have size : d.preview = ⟨1920, 1080⟩ := (congrArg Fitting.preview same).trans preview
  rw [size]
  exact Simulator.makesStills_frame h.whole _ _

/-! ## Waiting for an announcement -/

/-- The `n`th camera is on its way, or its announcement is the last that the visitor has still to
read. -/
structure Awaited (s : CameraSystem (Simulator Ticket)) (n : Nat) (unread : List Event) :
    Prop where
  plan : s.plan.Opens n
  jobs : s.jobs = []
  arrival : (s.Approach ∧ s.announcements.length + 1 = n ∧ ∀ e ∈ unread, e.isReady = false) ∨
    (s.Quiet ∧ s.announcements.length = n ∧ ∃ before facing size display,
      unread = before ++ [.ready facing size display] ∧ ∀ e ∈ before, e.isReady = false)

theorem announcements_eq {t : CameraSystem (Simulator Ticket)}
    (published : t.published = s.published ++ fresh) :
    t.announcements = s.announcements ++ fresh.filter Event.isReady := by
  rw [announcements, published, List.filter_append, announcements]

theorem filter_eq_nil_of_silent (silent : ∀ e ∈ fresh, e.isReady = false) :
    fresh.filter Event.isReady = [] :=
  List.filter_eq_nil_iff.2 fun e mem => by simp [silent e mem]

theorem Awaited.step (h : s.Awaited n unread) (staged : s.Staged) {task : Task}
    (ready : s.ready task = true) (published : (s.step task).published = s.published ++ fresh) :
    (s.step task).Awaited n (unread ++ fresh) := by
  refine ⟨plan_step staged.steady Simulator.complete_dual ready ▸ h.plan,
    jobs_of_none h.jobs task, ?_⟩
  have counted := announcements_eq published
  rcases h.arrival with ⟨approach, count, silent⟩ | ⟨quiet, count, arrival⟩
  · have reaches := approach.step staged.steady Simulator.complete_dual staged.visible
      (fun camera slot => by simp [staged.negotiated slot]) ready (staged.step ready).uncrashed
      published
    rcases reaches with ⟨approach, silent'⟩ | ⟨quiet, facing, size, display, rfl⟩
    · refine .inl ⟨approach, ?_, fun e mem => (List.mem_append.1 mem).elim (silent e) (silent' e)⟩
      rw [counted, filter_eq_nil_of_silent silent', List.append_nil]
      exact count
    · refine .inr ⟨quiet, ?_, unread, facing, size, display, rfl, silent⟩
      rw [counted, List.length_append]
      exact count
  · obtain ⟨quiet, same⟩ := quiet.step staged.senders h.jobs ready
    obtain rfl : fresh = [] := List.append_right_eq_self.1 (published.symm.trans same)
    rw [List.append_nil]
    refine .inr ⟨quiet, ?_, arrival⟩
    rw [counted, List.filter_nil, List.append_nil]
    exact count

theorem Awaited.read {e : Event} (h : s.Awaited n (e :: unread)) (silent : e.isReady = false)
    (subscribers : List Subscriber) :
    (s.withSubscribers subscribers).Awaited n unread := by
  have same := s.undisturbed_read subscribers
  have demand := s.sameDemand_read subscribers
  refine ⟨h.plan, h.jobs, ?_⟩
  rcases h.arrival with
    ⟨approach, count, unheard⟩ | ⟨quiet, count, before, facing, size, display, eq, unheard⟩
  · exact .inl ⟨approach.of_same same demand, count, fun e mem => unheard e (by simp [mem])⟩
  · cases before with
    | nil =>
      obtain ⟨rfl, -⟩ := List.cons.inj eq
      cases silent
    | cons first before =>
      obtain ⟨-, rfl⟩ := List.cons.inj eq
      exact .inr ⟨quiet.of_same same demand, count, before, facing, size, display, rfl,
        fun e mem => unheard e (by simp [mem])⟩

/-- As long as there is no announcement to read there is a task that can make a step. -/
theorem Awaited.ready (h : s.Awaited n []) (staged : s.Staged) : ∃ task, s.ready task = true := by
  rcases h.arrival with ⟨approach, -, -⟩ | ⟨-, -, before, facing, size, display, eq, -⟩
  · exact approach.ready staged.visible
  · simp at eq

/-! ## The camera stays open -/

/-- The `n`th camera is open, and will stay so, and the visitor has read its announcement. -/
structure Stays (s : CameraSystem (Simulator Ticket)) (n : Nat) (camera : OpenCamera)
    (unread : List Event) : Prop where
  plan : s.plan.Opens n
  lingers : s.Lingers camera
  count : s.announcements.length = n
  silent : ∀ e ∈ unread, e.isReady = false

theorem Stays.started {camera : OpenCamera} (h : s.Stays n camera unread) :
    s.requests.started = true :=
  congrArg Requests.started h.plan.requests

theorem Stays.step {camera : OpenCamera} (h : s.Stays n camera unread) (staged : s.Staged)
    {task : Task} (ready : s.ready task = true)
    (published : (s.step task).published = s.published ++ fresh) :
    (s.step task).Stays n camera (unread ++ fresh) := by
  obtain ⟨held, secured⟩ := staged.sound.secured
  obtain ⟨before, biding, -⟩ := h.lingers.biding
  have silent := biding.silent (by simp) secured ready published
  refine ⟨plan_step staged.steady Simulator.complete_dual ready ▸ h.plan,
    h.lingers.step secured staged.senders ready (staged.step ready).uncrashed, ?_,
    fun e mem => (List.mem_append.1 mem).elim (h.silent e) (silent e)⟩
  rw [announcements_eq published, filter_eq_nil_of_silent silent, List.append_nil]
  exact h.count

theorem Lingers.of_same {t : CameraSystem (Simulator Ticket)} {camera : OpenCamera}
    (h : s.Lingers camera) (same : Undisturbed s t) (demand : SameDemand s t) :
    t.Lingers camera := by
  obtain ⟨slot, before, biding, unclosed⟩ := h
  exact ⟨same.slot.trans slot, before, biding.of_same same demand, unclosed⟩

theorem Stays.read {camera : OpenCamera} {later : List Event} (h : s.Stays n camera unread)
    (left : later ⊆ unread) (subscribers : List Subscriber) :
    (s.withSubscribers subscribers).Stays n camera later where
  plan := h.plan
  lingers := h.lingers.of_same (s.undisturbed_read subscribers) (s.sameDemand_read subscribers)
  count := h.count
  silent e mem := h.silent e (left mem)

theorem aside_concat {before : List Command} {c : Command}
    (h : ∀ other ∈ before, other.aside = true) (aside : c.aside = true) :
    ∀ other ∈ before ++ [c], other.aside = true := by
  intro other mem
  rcases List.mem_append.1 mem with mem | mem
  · exact h other mem
  · exact List.mem_singleton.1 mem ▸ aside

theorem queue_focusOn (s : CameraSystem (Simulator Ticket)) (tap : Tap) :
    (s.focusOn tap).2.queue = s.queue ∨ (s.focusOn tap).2.queue = s.queue ++ [.applyFocus] := by
  simp only [focusOn, submit]
  repeat' (first | exact .inl rfl | exact .inr rfl | split)

/-- The camera may be focused while it stays open. -/
theorem Stays.focusOn {camera : OpenCamera} (h : s.Stays n camera unread) (staged : s.Staged)
    (tap : Tap) : (s.focusOn tap).2.Stays n camera unread := by
  obtain ⟨slot, before, biding, unclosed⟩ := h.lingers
  have same := s.request_undisturbed (.focusOn tap)
  have stage : (s.focusOn tap).2.executor.stage.aside = true := same.executor ▸ biding.stage
  have preparing : (s.focusOn tap).2.preparing = [] := by
    refine Eq.trans ?_ biding.preparing
    simp only [CameraSystem.focusOn, submit]
    repeat' (first | rfl | split)
  have bus : (s.focusOn tap).2.bus = s.bus := by
    simp only [CameraSystem.focusOn, submit]
    repeat' (first | rfl | split)
  refine ⟨staged.plan_request (.focusOn tap) ▸ h.plan, ⟨same.slot.trans slot, ?_⟩, ?_, h.silent⟩
  · rcases s.queue_focusOn tap with queue | queue
    · exact ⟨before, ⟨stage, queue.trans biding.queue, biding.aside, preparing⟩, unclosed⟩
    · refine ⟨before ++ [.applyFocus], ⟨stage, ?_, aside_concat biding.aside rfl, preparing⟩,
        by simp [unclosed]⟩
      rw [queue, biding.queue, List.append_nil, List.append_nil]
  · rw [announcements, CameraSystem.published, bus]
    exact h.count

/-- A camera that stays open takes a picture, if none is under way. -/
theorem Stays.takePicture {camera : OpenCamera} (h : s.Stays n camera unread) (staged : s.Staged)
    (jobs : s.jobs = []) (visible : Rect) :
    ∃ t, s.takePicture visible = (true, t) ∧ t.Stays n camera unread ∧
      t.Shooting camera visible s.images := by
  obtain ⟨held, secured⟩ := staged.sound.secured
  obtain ⟨slot, before, biding, unclosed⟩ := h.lingers
  obtain ⟨opened, -⟩ := secured.of_slot slot
  have idle : s.capture = .idle := staged.sound.roster.idle_iff.2 jobs
  have accepted : s.takePicture visible = (true, { s with
      capture := .frameRequested
      accepted := s.accepted + 1
      jobs := s.jobs ++ [⟨⟨s.accepted + 1, camera.session, visible⟩, .waiting⟩] }) := by
    simp [CameraSystem.takePicture, opened, session?, slot, idle]
  refine ⟨_, accepted, ⟨h.plan, ⟨slot, before, { biding with }, unclosed⟩, h.count, h.silent⟩, ?_⟩
  exact .asking (s.accepted + 1) .waiting (by rw [jobs, List.nil_append]) (.inl rfl) rfl

/-- The camera is closed and the other one is on its way. -/
theorem Stays.swap {camera : OpenCamera} (h : s.Stays n camera unread) (staged : s.Staged)
    (jobs : s.jobs = []) : s.swap.Awaited (n + 1) unread := by
  obtain ⟨slot, before, biding, -⟩ := h.lingers
  have swapped : s.swap = (s.submit .closeCamera).openRequest s.requests.facing.toggled := by
    simp [CameraSystem.swap, CameraService.cameraCount, staged.steady.cameras, Simulator.dual,
      h.started]
  refine ⟨(staged.plan_request .swap).symm ▸ h.plan.swap, ?_, .inl ⟨?_, ?_, h.silent⟩⟩
  · rw [swapped]
    exact jobs
  · rw [swapped]
    refine .ordered (before ++ [.closeCamera]) s.requests.facing.toggled (s.requests.newest + 1)
      ⟨biding.stage, ?_, aside_concat biding.aside rfl, biding.preparing⟩ (.inr (by simp))
    simp [openRequest, submit, biding.queue]
  · rw [swapped]
    exact congrArg (· + 1) h.count

/-- What rests as planned is done. -/
theorem Quiet.outlook (h : s.Quiet) : s.plan.outlook = s.slot.elim s.shut s.working := by
  rw [CameraSystem.plan, h.queue]
  exact reached_of_idle h.idle

/-- Where the announcement is read next, it is the last of what is to be read, and nothing is left
to do for the camera that is open. -/
theorem Awaited.arrived {facing : Facing} {size : Size} {display : UInt32}
    (h : s.Awaited n (.ready facing size display :: unread)) :
    unread = [] ∧ s.Quiet ∧ ∃ camera, s.Stays n camera [] := by
  rcases h.arrival with
    ⟨-, -, silent⟩ | ⟨quiet, count, before, facing', size', display', eq, silent⟩
  · cases silent _ List.mem_cons_self
  · obtain ⟨rfl, rfl⟩ : before = [] ∧ unread = [] := by
      cases before with
      | nil => exact ⟨rfl, (List.cons.inj eq).2⟩
      | cons e before =>
        obtain ⟨rfl, -⟩ := List.cons.inj eq
        cases silent _ List.mem_cons_self
    have open_ := h.plan.camera
    rw [quiet.outlook] at open_
    cases slot : s.slot with
    | none =>
      rw [slot] at open_
      cases open_
    | some camera =>
      have biding : s.Biding [] [] :=
        ⟨by rw [quiet.idle]; rfl, quiet.queue, by simp, quiet.preparing⟩
      exact ⟨rfl, quiet, camera, h.plan, ⟨slot, [], biding, by simp⟩, count, by simp⟩

/-! ## Closing -/

/-- The last of `n` cameras is being closed, and a barrier follows, or all of it is done. -/
structure Closing (s : CameraSystem (Simulator Ticket)) (n barrier : Nat) : Prop where
  plan : s.plan.Closes n
  jobs : s.jobs = []
  count : s.announcements.length = n
  progress : s.barriers + 1 = barrier ∧ (∃ before, s.Biding before [.barrier]) ∨
    s.barriers = barrier ∧ s.Quiet

/-- The camera is closed for good. -/
theorem Stays.close {camera : OpenCamera} (h : s.Stays n camera unread) (staged : s.Staged)
    (jobs : s.jobs = []) : s.pause.barrier.2.Closing n s.pause.barrier.1 := by
  obtain ⟨slot, before, biding, -⟩ := h.lingers
  have paused : s.pause = { s with requests := { s.requests with started := false } }.submit
      .closeCamera := by
    simp [CameraSystem.pause, h.started]
  have plan : s.pause.barrier.2.plan.Closes n := by
    have closes := staged.plan_request .pause ▸ h.plan.pause
    have same := CameraSystem.plan_request s.pause .barrier
    exact same ▸ closes
  have none : before.filter (· = .barrier) = [] := List.filter_eq_nil_iff.2 fun c mem barrier => by
    have aside := biding.aside c mem
    rw [of_decide_eq_true barrier] at aside
    cases aside
  refine ⟨plan, ?_, ?_, .inl ⟨?_, before ++ [.closeCamera], ?_⟩⟩
  all_goals rw [paused]
  · exact jobs
  · exact h.count
  · simp [barrier, submit, biding.queue, none]
  · exact ⟨biding.stage, by simp [barrier, submit, biding.queue],
      aside_concat biding.aside rfl, biding.preparing⟩

theorem Closing.step {barrier : Nat} (h : s.Closing n barrier) (staged : s.Staged) {task : Task}
    (ready : s.ready task = true) (published : (s.step task).published = s.published ++ fresh) :
    (s.step task).Closing n barrier := by
  obtain ⟨held, secured⟩ := staged.sound.secured
  have counted := announcements_eq published
  have kept (silent : ∀ e ∈ fresh, e.isReady = false) : (s.step task).announcements.length = n := by
    rw [counted, filter_eq_nil_of_silent silent, List.append_nil]
    exact h.count
  have plan := plan_step staged.steady Simulator.complete_dual ready ▸ h.plan
  rcases h.progress with ⟨next, before, biding⟩ | ⟨passed, quiet⟩
  · refine ⟨plan, jobs_of_none h.jobs task,
      kept (biding.silent (by simp) secured ready published), ?_⟩
    rcases biding.step secured staged.senders ready (staged.step ready).uncrashed with
      ⟨c, later, rfl, eq, left⟩ | ⟨left, -, same⟩ | ⟨-, -, idle, c, later, last, eq⟩
    · have aside := biding.aside c (by simp)
      have same : (s.step task).barriers = s.barriers := by
        rw [eq]
        refine barriers_execute _ fun barrier => ?_
        rw [barrier] at aside
        cases aside
      exact .inl ⟨same ▸ next, later, left⟩
    · exact .inl ⟨same ▸ next, before, left⟩
    · obtain ⟨rfl, rfl⟩ := List.cons.inj last
      rw [eq]
      exact .inr ⟨next, idle, rfl, biding.preparing⟩
  · have other := quiet.other staged.senders ready
    obtain ⟨quiet, same⟩ := quiet.step staged.senders h.jobs ready
    obtain rfl : fresh = [] := List.append_right_eq_self.1 (published.symm.trans same)
    exact ⟨plan, jobs_of_none h.jobs task, kept (by simp),
      .inr ⟨(s.barriers_of_other other).trans passed, quiet⟩⟩

/-- Once all is done every camera that was opened is released. -/
theorem Closing.balance {barrier : Nat} (h : s.Closing n barrier) (quiet : s.Quiet)
    (staged : s.Staged) :
    s.slot = none ∧ s.service.opens = n ∧ s.service.releases = n ∧ s.service.maxOpen ≤ 1 := by
  obtain ⟨held, secured⟩ := staged.sound.secured
  have outlook := quiet.outlook
  have shut := h.plan.camera
  have history := h.plan.history
  obtain ⟨opens, releases⟩ := secured.balance
  rcases secured.between (.inl quiet.idle) with ⟨slot, -, rfl⟩ | ⟨camera, slot, -⟩
  · rw [slot] at outlook
    rw [outlook] at history
    exact ⟨slot, opens.trans history, releases.trans history, secured.holds.maxOpen⟩
  · obtain ⟨f, -, open_⟩ := staged.steady.previewed.tuned.sized.spec
      ((engaged?_of_idle quiet.idle).trans slot)
    rw [outlook, slot] at shut
    cases open_.symm.trans shut

end CameraSystem

end Viewfinder
