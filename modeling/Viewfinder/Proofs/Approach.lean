import Viewfinder.Proofs.Outlook
import Viewfinder.Proofs.Readiness

/-!
# On the way to an announcement

Once a request to open a camera waits, and nothing was asked for after it, its session is announced
whatever the tasks do first, unless a tap takes the executor down: it finishes what it is about,
opens and configures the camera, has the preview prepared and negotiates its size. `Approach` has a
case for each of these stretches. A step stays in its stretch, goes on to a later one, or announces
the session (`Approach.step`).
-/

namespace Viewfinder

/-- A camera could not be opened. -/
def Event.fails : Event → Bool
  | failed .. => true
  | _ => false

/-- Commands that neither open a camera nor configure its preview. -/
def Command.aside : Command → Bool
  | .closeCamera | .turnDevice _ | .tiltDevice _ | .applyFocus => true
  | _ => false

/-- What the executor is about when it carries out such a command. -/
def Stage.aside : Stage → Bool
  | .idle | .native _ (.forget _ false) | .native _ (.turn _) | .native _ (.focus _) => true
  | _ => false

namespace CameraSystem

section

variable {σ : Type} {s t : CameraSystem σ}

/-- The executor is about what comes before `rest`, which neither opens a camera nor configures its
preview, and no session has to be prepared. -/
structure Biding (s : CameraSystem σ) (before rest : List Command) : Prop where
  stage : s.executor.stage.aside = true
  queue : s.queue = before ++ rest
  aside : ∀ c ∈ before, c.aside = true
  preparing : s.preparing = []

/-- There is nothing that the executor could do, and no session has to be prepared. -/
structure Quiet (s : CameraSystem σ) : Prop where
  idle : s.executor.stage = .idle
  queue : s.queue = []
  preparing : s.preparing = []

/-- How far the session that is asked for has come. -/
inductive Approach (s : CameraSystem σ) : Prop
  /-- The request waits, and no other camera will be open when it is executed. -/
  | ordered (before : List Command) (facing : Facing) (request : Nat)
    (biding : s.Biding before [.openCamera facing request])
    (closes : s.slot = none ∨ .closeCamera ∈ before)
  | opening (facing : Facing) (request : Nat)
    (stage : s.executor.stage = .opening facing request) (queue : s.queue = [])
    (preparing : s.preparing = [])
  | configuring (routine : Routine) (facing : Facing) (request : Nat) (camera : OpenCamera)
    (o : Orientation)
    (stage : s.executor.stage = .native routine (.install facing request camera o))
    (queue : s.queue = []) (preparing : s.preparing = [])
  | preparing (camera : OpenCamera) (idle : s.executor.stage = .idle) (slot : s.slot = some camera)
    (unannounced : s.executor.announced ≠ some camera.session) (queue : s.queue = [])
    (preparing : s.preparing = [camera.session])
  | negotiating (camera : OpenCamera) (idle : s.executor.stage = .idle)
    (slot : s.slot = some camera) (unannounced : s.executor.announced ≠ some camera.session)
    (queue : s.queue = [.configurePreview camera.session]) (preparing : s.preparing = [])
  | resizing (routine : Routine) (camera : OpenCamera) (size : Size)
    (stage : s.executor.stage = .native routine (.resize camera size))
    (unannounced : s.executor.announced ≠ some camera.session) (queue : s.queue = [])
    (preparing : s.preparing = [])

/-- The session is still on its way, or what was published last announces it and all is done. -/
def Reaches (t : CameraSystem σ) (fresh : List Event) : Prop :=
  t.Approach ∧ (∀ e ∈ fresh, e.isReady = false) ∨
    t.Quiet ∧ ∃ facing size display, fresh = [.ready facing size display]

theorem Biding.of_same {before rest : List Command} (h : s.Biding before rest)
    (same : Undisturbed s t) (demand : SameDemand s t) : t.Biding before rest where
  stage := same.executor ▸ h.stage
  queue := demand.queue.trans h.queue
  aside := h.aside
  preparing := demand.preparing.trans h.preparing

theorem Quiet.of_same (h : s.Quiet) (same : Undisturbed s t) (demand : SameDemand s t) :
    t.Quiet where
  idle := same.executor ▸ h.idle
  queue := demand.queue.trans h.queue
  preparing := demand.preparing.trans h.preparing

/-- What captures and readers do does not matter. -/
theorem Approach.of_same (h : s.Approach) (same : Undisturbed s t) (demand : SameDemand s t) :
    t.Approach := by
  have slot := same.slot
  have executor := same.executor
  have queue := demand.queue
  have preparing := demand.preparing
  cases h with
  | ordered before facing request biding closes =>
    exact .ordered before facing request (biding.of_same same demand) (slot ▸ closes)
  | opening facing request stage waits prepares =>
    exact .opening facing request (executor ▸ stage) (queue.trans waits) (preparing.trans prepares)
  | configuring routine facing request camera o stage waits prepares =>
    exact .configuring routine facing request camera o (executor ▸ stage) (queue.trans waits)
      (preparing.trans prepares)
  | preparing camera idle open_ unannounced waits prepares =>
    exact .preparing camera (executor ▸ idle) (slot.trans open_) (executor ▸ unannounced)
      (queue.trans waits) (preparing.trans prepares)
  | negotiating camera idle open_ unannounced waits prepares =>
    exact .negotiating camera (executor ▸ idle) (slot.trans open_) (executor ▸ unannounced)
      (queue.trans waits) (preparing.trans prepares)
  | resizing routine camera size stage unannounced waits prepares =>
    exact .resizing routine camera size (executor ▸ stage) (executor ▸ unannounced)
      (queue.trans waits) (preparing.trans prepares)

/-- The failures to open a camera that were published. -/
def failures (s : CameraSystem σ) : List Event := s.published.filter Event.fails

@[simp] theorem failures_publish (s : CameraSystem σ) (e : Event) :
    (s.publish e).failures = s.failures ++ [e].filter Event.fails := by
  simp [failures]

@[simp] theorem failures_enter (s : CameraSystem σ) (state : HandleState) (facing : Facing) :
    (s.enter state facing).failures = s.failures :=
  (failures_publish _ _).trans (List.append_nil _)

theorem failures_announce (s : CameraSystem σ) (camera : OpenCamera) (size : Size) :
    (s.announce camera size).failures = s.failures := by
  unfold announce
  split
  · rfl
  · exact (failures_publish _ _).trans (List.append_nil _)

/-- A routine on the open camera never ends in such a failure. -/
theorem failures_resume (s : CameraSystem σ) (routine : Routine) {next : Continuation}
    (works : next.works = true) : (s.resume routine next).failures = s.failures := by
  cases next with
  | install | abandon | forget => cases works
  | resize camera size =>
    simp only [resume]
    split
    · exact failures_announce { s with preview := some size } camera size
    · rfl
  | turn o => exact (failures_publish s _).trans (List.append_nil _)
  | focus request =>
    simp only [resume]
    split
    · exact (failures_publish s _).trans (List.append_nil _)
    · rfl

theorem barriers_resume (s : CameraSystem σ) (routine : Routine) {next : Continuation}
    (works : next.works = true) : (s.resume routine next).barriers = s.barriers := by
  cases next with
  | install | abandon | forget => cases works
  | resize | turn | focus =>
    simp only [resume, announce]
    repeat' (first | rfl | split)

variable [CameraService σ]

theorem failures_execute (s : CameraSystem σ) (c : Command) :
    (s.execute c).failures = s.failures := by
  cases c with
  | openCamera facing request =>
    simp only [execute]
    split
    · rfl
    · exact failures_enter s .opening facing
  | closeCamera =>
    simp only [execute, beginClose]
    split
    · rfl
    · exact failures_enter { s with slot := none } .closing _
  | configurePreview session =>
    rw [execute]
    rcases s.configurePreview_cases session with
      ⟨-, eq⟩ | ⟨camera, -, -, ⟨-, eq⟩ | ⟨size, -, ⟨-, eq⟩ | ⟨-, eq⟩⟩⟩
    all_goals rw [eq]
    · exact failures_announce s camera size
    · rfl
  | turnDevice | tiltDevice =>
    simp only [execute, refreshOrientation]
    repeat' (first | rfl | split)
  | applyFocus =>
    rw [execute]
    obtain ⟨tap, eq | ⟨camera, -, eq | ⟨request, eq⟩⟩⟩ := s.applyFocus_cases
    all_goals rw [eq]; rfl
  | barrier => rfl

/-- A command aside starts nothing but what is aside, unless it crashes. -/
theorem aside_execute (s : CameraSystem σ) (idle : s.executor.stage = .idle) {c : Command}
    (aside : c.aside = true) (uncrashed : (s.execute c).executor.stage ≠ .crashed) :
    (s.execute c).executor.stage.aside = true := by
  have still : s.executor.stage.aside = true := by rw [idle]; rfl
  cases c with
  | openCamera | configurePreview | barrier => cases aside
  | closeCamera =>
    simp only [execute, beginClose]
    split <;> rfl
  | turnDevice | tiltDevice =>
    simp only [execute, refreshOrientation]
    repeat' (first | exact still | rfl | split)
  | applyFocus =>
    rw [execute] at uncrashed ⊢
    obtain ⟨tap, eq | ⟨camera, -, eq | ⟨request, eq⟩⟩⟩ := s.applyFocus_cases
    all_goals rw [eq] at uncrashed ⊢
    · exact still
    · exact absurd rfl uncrashed
    · rfl

theorem Biding.take {c : Command} {before rest : List Command} (h : s.Biding (c :: before) rest)
    (idle : s.executor.stage = .idle)
    (uncrashed : ({ s with queue := before ++ rest }.execute c).executor.stage ≠ .crashed) :
    ({ s with queue := before ++ rest }.execute c).Biding before rest := by
  have errands := execute_sameErrands { s with queue := before ++ rest } c
  exact {
    stage := aside_execute { s with queue := before ++ rest } idle (h.aside c (by simp)) uncrashed
    queue := errands.queue
    aside := fun other mem => h.aside other (by simp [mem])
    preparing := errands.preparing.trans h.preparing }

/-- Once the commands before are executed no camera is open, if one of them closes. -/
theorem closes_execute {c : Command} {later queue : List Command}
    (closes : s.slot = none ∨ .closeCamera ∈ c :: later) :
    ({ s with queue := queue }.execute c).slot = none ∨ .closeCamera ∈ later := by
  by_cases close : c = .closeCamera
  · subst close
    exact .inl (slot_beginClose _ false)
  · rw [slot_execute _ close]
    exact closes.imp id fun mem => (List.mem_cons.1 mem).resolve_left (Ne.symm close)

end

variable {s t : CameraSystem (Simulator Ticket)} {held : Option Nat} {cameras : List CameraSpec}

/-- Where every camera exists and the hardware refuses nothing, no open fails. -/
theorem Steady.failures_of_turn (h : s.Steady cameras) (complete : Complete cameras)
    (turn : Turn s t) : t.failures = s.failures := by
  cases turn with
  | take c rest idle queue => exact failures_execute { s with queue := rest } c
  | finish idle queue unsent => simp [hasSenders, h.inUse] at unsent
  | missing facing request stage absent =>
    have present := h.camera? complete facing
    simp [absent] at present
  | refused facing request stage present failing =>
    have none := h.willing.1
    omega
  | acquired | called => rfl
  | installed routine facing request camera o stage steps =>
    rw [install, failures_publish, failures_enter]
    exact List.append_nil _
  | forgotten routine facing last stage steps => exact failures_enter _ .closed facing
  | worked routine next works stage steps => exact s.failures_resume routine works

/-- No task publishes a failure. -/
theorem Steady.unfailing_step (h : s.Steady cameras) (complete : Complete cameras) {task : Task}
    (ready : s.ready task = true) {fresh : List Event}
    (published : (s.step task).published = s.published ++ fresh) :
    ∀ e ∈ fresh, e.fails = false := by
  by_cases own : task = .executor
  · subst own
    obtain ⟨held, secured⟩ := h.previewed.tuned.sound.secured
    have same := h.failures_of_turn complete (secured.turn ready)
    rw [failures, show s.executorStep.published = s.published ++ fresh from published,
      List.filter_append, failures] at same
    simpa using List.append_right_eq_self.1 same
  · have others := published_move (s := s) (m := .task task) fun eq => own (Move.task.inj eq)
    rw [List.append_cancel_left (published.symm.trans others)]
    cases s.develops? (.task task) <;> simp [Event.fails]

/-- Unless it crashes the executor goes on with what it is about before it comes to the rest. -/
theorem Biding.of_turn {before rest : List Command} (h : s.Biding before rest)
    (senders : s.hasSenders = true) (uncrashed : t.executor.stage ≠ .crashed) (turn : Turn s t) :
    (∃ c later, before = c :: later ∧ t = { s with queue := later ++ rest }.execute c ∧
      t.Biding later rest) ∨
    (t.Biding before rest ∧ t.slot = s.slot ∧ t.barriers = s.barriers) ∨
    (before = [] ∧ s.executor.stage = .idle ∧ ∃ c later, rest = c :: later ∧
      t = { s with queue := later }.execute c) := by
  have aside := h.stage
  cases turn with
  | take c later idle queue =>
    cases before with
    | nil => exact .inr (.inr ⟨rfl, idle, c, later, h.queue.symm.trans queue, rfl⟩)
    | cons first before =>
      obtain ⟨rfl, rfl⟩ := List.cons.inj (queue.symm.trans h.queue)
      exact .inl ⟨c, before, rfl, rfl, h.take idle uncrashed⟩
  | finish idle queue unsent => cases senders.symm.trans unsent
  | missing facing request stage | refused facing request stage =>
    rw [stage] at aside
    cases aside
  | acquired facing request spec capabilities o stage =>
    rw [stage] at aside
    cases aside
  | called routine next step left stage steps =>
    refine .inr (.inl ⟨⟨?_, h.queue, h.aside, h.preparing⟩, rfl, rfl⟩)
    rw [stage] at aside
    cases next with
    | forget facing last => cases last <;> exact aside
    | _ => exact aside
  | installed routine facing request camera o stage steps =>
    rw [stage] at aside
    cases aside
  | forgotten routine facing last stage steps =>
    cases last with
    | true =>
      rw [stage] at aside
      cases aside
    | false => exact .inr (.inl ⟨⟨rfl, h.queue, h.aside, h.preparing⟩, rfl, rfl⟩)
  | worked routine next works stage steps =>
    have returned := s.resume_returned routine works
    have errands := s.resume_sameErrands routine works
    exact .inr (.inl ⟨⟨by rw [returned.idle]; rfl, errands.queue.trans h.queue, h.aside,
      errands.preparing.trans h.preparing⟩, returned.slot, s.barriers_resume routine works⟩)

/-- A step that neither takes a command to configure the preview nor ends a resize announces
nothing. -/
theorem silent_of_turn {fresh : List Event} (turn : Turn s t)
    (published : t.published = s.published ++ fresh) (size : s.executor.stage.size? = none)
    (other : ∀ session, s.executes? (.task .executor) ≠ some (.configurePreview session)) :
    ∀ e ∈ fresh, e.isReady = false := by
  obtain ⟨added, published', publishes⟩ := publishes_of_turn turn
  obtain rfl := List.append_cancel_left (published.symm.trans published')
  cases publishes with
  | announcement camera size' first idle slot preview cause =>
    rcases cause with ⟨still, -, -, waits⟩ | ⟨routine, stage⟩
    · exact absurd ((executes?_of_idle still).trans waits) (other _)
    · rw [stage] at size
      cases size
  | _ => simp [Event.isReady]

/-- What others than the executor publish are images. -/
theorem silent_of_other {fresh : List Event} {task : Task} (other : task ≠ .executor)
    (published : (s.step task).published = s.published ++ fresh) :
    ∀ e ∈ fresh, e.isReady = false := by
  have others := published_move (s := s) (m := .task task) fun eq => other (Move.task.inj eq)
  rw [List.append_cancel_left (published.symm.trans others)]
  cases s.develops? (.task task) <;> simp [Event.isReady]

/-- Commands aside announce nothing, nor does what comes next unless it configures a preview. -/
theorem Biding.silent_of_turn {before rest : List Command} {fresh : List Event}
    (h : s.Biding before rest) (other : ∀ session, .configurePreview session ∉ rest)
    (turn : Turn s t) (published : t.published = s.published ++ fresh) :
    ∀ e ∈ fresh, e.isReady = false := by
  refine CameraSystem.silent_of_turn turn published ?_ fun session eq => ?_
  · have aside := h.stage
    cases stage : s.executor.stage with
    | native routine next =>
      rw [stage] at aside
      cases next <;> first | rfl | cases aside
    | _ => rfl
  · have idle : s.executor.stage = .idle := Decidable.byContradiction fun busy => by
      cases (executes?_of_busy busy _).symm.trans eq
    rw [executes?_of_idle idle, h.queue] at eq
    rcases List.mem_append.1 (List.mem_of_mem_head? eq) with mem | mem
    · cases h.aside _ mem
    · exact other session mem

/-- A camera that comes into the slot has not been announced. -/
theorem Previewed.unannounced (h : s.Previewed) {session : Nat}
    (begins : s.executor.stage.begins? = some session) : s.executor.announced ≠ some session := by
  intro announced
  have begun := h.announced.begun session announced
  have next := h.tuned.sound.numbered.begins session begins
  omega

section

variable {fresh : List Event}

theorem Reaches.of_ordered {before : List Command} {facing : Facing} {request : Nat}
    (biding : s.Biding before [.openCamera facing request])
    (closes : s.slot = none ∨ .closeCamera ∈ before) (senders : s.hasSenders = true)
    (uncrashed : t.executor.stage ≠ .crashed) (turn : Turn s t)
    (published : t.published = s.published ++ fresh) : t.Reaches fresh := by
  have silent := biding.silent_of_turn (by simp) turn published
  rcases biding.of_turn senders uncrashed turn with
    ⟨c, later, rfl, rfl, biding'⟩ | ⟨biding', slot, -⟩ | ⟨rfl, -, c, later, rest, rfl⟩
  · exact .inl ⟨.ordered later facing request biding' (closes_execute closes), silent⟩
  · exact .inl ⟨.ordered before facing request biding' (slot ▸ closes), silent⟩
  · obtain ⟨rfl, rfl⟩ := List.cons.inj rest
    have slot : s.slot = none := closes.resolve_right List.not_mem_nil
    have opens : ({ s with queue := [] } : CameraSystem _).execute (.openCamera facing request) =
        ({ s with queue := [] }.enter .opening facing).setStage (.opening facing request) := by
      simp [execute, slot]
    rw [opens]
    exact .inl ⟨.opening facing request rfl rfl biding.preparing, silent⟩

theorem Reaches.of_negotiating {camera : OpenCamera} (idle : s.executor.stage = .idle)
    (slot : s.slot = some camera) (unannounced : s.executor.announced ≠ some camera.session)
    (queue : s.queue = [.configurePreview camera.session]) (preparing : s.preparing = [])
    (offers : s.negotiated? camera ≠ none) (turn : Turn s t)
    (published : t.published = s.published ++ fresh) : t.Reaches fresh := by
  cases turn with
  | take c rest _ queue' =>
    obtain ⟨rfl, rfl⟩ := List.cons.inj (queue'.symm.trans queue)
    simp only [execute] at published ⊢
    rcases configurePreview_cases { s with queue := [] } camera.session with
      ⟨closed, -⟩ | ⟨other, slot', -, ⟨none, -⟩ | ⟨size, -, ⟨-, eq⟩ | ⟨-, eq⟩⟩⟩
    · exact absurd (congrArg (Option.map OpenCamera.session) slot) closed
    · cases slot.symm.trans slot'
      exact absurd none offers
    all_goals
      cases slot.symm.trans slot'
      rw [eq] at published ⊢
    · simp only [announce, if_neg unannounced] at published ⊢
      rw [published_publish] at published
      refine .inr ⟨⟨idle, rfl, preparing⟩, _, _, _, (List.append_cancel_left published).symm⟩
    · refine .inl ⟨.resizing _ camera size rfl unannounced rfl preparing, ?_⟩
      have none : fresh = [] := List.append_right_eq_self.1 published.symm
      simp [none]
  | finish _ queue' => cases queue.symm.trans queue'
  | missing _ _ stage | refused _ _ stage | acquired _ _ _ _ _ stage => cases idle.symm.trans stage
  | called _ _ _ _ stage | installed _ _ _ _ _ stage | forgotten _ _ _ stage
  | worked _ _ _ stage => cases idle.symm.trans stage

theorem Reaches.of_resizing {routine : Routine} {camera : OpenCamera} {size : Size}
    (stage : s.executor.stage = .native routine (.resize camera size))
    (accepted : routine.Accepted camera.capabilities.previewSizes)
    (unannounced : s.executor.announced ≠ some camera.session) (queue : s.queue = [])
    (preparing : s.preparing = []) (turn : Turn s t)
    (published : t.published = s.published ++ fresh) : t.Reaches fresh := by
  cases turn with
  | called routine' next step rest stage' =>
    cases stage.symm.trans stage'
    have none : fresh = [] := List.append_right_eq_self.1 published.symm
    exact .inl ⟨.resizing _ camera size rfl unannounced queue preparing, by simp [none]⟩
  | worked routine' next works stage' =>
    cases stage.symm.trans stage'
    simp only [resume, accepted.result, announce, if_neg unannounced] at published ⊢
    have told : _ ++ [_] = _ := (published_publish _ _).symm.trans published
    exact .inr ⟨⟨rfl, queue, preparing⟩, _, _, _, (List.append_cancel_left told).symm⟩
  | take _ _ idle | finish idle => cases stage.symm.trans idle
  | missing _ _ stage' | refused _ _ stage' | acquired _ _ _ _ _ stage' =>
    cases stage.symm.trans stage'
  | installed _ _ _ _ _ stage' | forgotten _ _ _ stage' => cases stage.symm.trans stage'

theorem Approach.of_turn (h : s.Approach) (steady : s.Steady cameras) (complete : Complete cameras)
    (offers : ∀ camera, s.slot = some camera → s.negotiated? camera ≠ none)
    (uncrashed : t.executor.stage ≠ .crashed) (turn : Turn s t)
    (published : t.published = s.published ++ fresh) : t.Reaches fresh := by
  have senders : s.hasSenders = true := by simp [hasSenders, steady.inUse]
  have previewed := steady.previewed
  cases h with
  | ordered before facing request biding closes =>
    exact .of_ordered biding closes senders uncrashed turn published
  | opening facing request stage queue preparing =>
    have silent := silent_of_turn turn published (by rw [stage]; rfl) fun session eq => by
      rw [executes?_of_busy (by simp [stage])] at eq
      cases eq
    cases turn with
    | acquired facing' request' spec capabilities o stage' =>
      exact .inl ⟨.configuring _ _ _ _ _ rfl queue preparing, silent⟩
    | missing facing' request' stage' absent =>
      have present := steady.camera? complete facing'
      simp [absent] at present
    | refused facing' request' stage' present failing =>
      have none := steady.willing.1
      omega
    | take _ _ idle | finish idle => cases stage.symm.trans idle
    | called _ _ _ _ stage' | installed _ _ _ _ _ stage' | forgotten _ _ _ stage'
    | worked _ _ _ stage' => cases stage.symm.trans stage'
  | configuring routine facing request camera o stage queue preparing =>
    have silent := silent_of_turn turn published (by rw [stage]; rfl) fun session eq => by
      rw [executes?_of_busy (by simp [stage])] at eq
      cases eq
    cases turn with
    | called routine' next step rest stage' =>
      cases stage.symm.trans stage'
      exact .inl ⟨.configuring _ facing request camera o rfl queue preparing, silent⟩
    | installed routine' facing' request' camera' o' stage' =>
      cases stage.symm.trans stage'
      have unannounced : s.executor.announced ≠ some camera.session :=
        previewed.unannounced (by rw [stage]; rfl)
      refine .inl ⟨.preparing camera rfl rfl unannounced queue ?_, silent⟩
      show s.preparing ++ [camera.session] = _
      rw [preparing, List.nil_append]
    | take _ _ idle | finish idle => cases stage.symm.trans idle
    | missing _ _ stage' | refused _ _ stage' | acquired _ _ _ _ _ stage' =>
      cases stage.symm.trans stage'
    | forgotten _ _ _ stage' => cases stage.symm.trans stage'
    | worked _ _ works stage' =>
      cases stage.symm.trans stage'
      cases works
  | preparing camera idle slot unannounced queue =>
    cases turn with
    | take _ _ _ queue' => cases queue.symm.trans queue'
    | finish _ _ unsent => cases senders.symm.trans unsent
    | missing _ _ stage | refused _ _ stage | acquired _ _ _ _ _ stage =>
      cases idle.symm.trans stage
    | called _ _ _ _ stage | installed _ _ _ _ _ stage | forgotten _ _ _ stage
    | worked _ _ _ stage => cases idle.symm.trans stage
  | negotiating camera idle slot unannounced queue preparing =>
    exact .of_negotiating idle slot unannounced queue preparing (offers camera slot) turn published
  | resizing routine camera size stage unannounced queue preparing =>
    obtain ⟨-, accepted⟩ := previewed.tuned.sized.accepted routine camera size stage
    exact .of_resizing stage accepted unannounced queue preparing turn published

/-- The session that is open passes its preparation on to the executor. -/
theorem Approach.prepare (h : s.Approach) (secured : s.Secured held) (senders : s.hasSenders = true)
    (visible : s.viewport.isEmpty = false) {session : Nat} (prepares : session ∈ s.preparing) :
    (s.prepare session).Approach := by
  cases h with
  | preparing camera idle slot unannounced queue preparing =>
    rw [preparing, List.mem_singleton] at prepares
    subst prepares
    have current : s.isOver camera.session = false := by
      simp [isOver, (secured.of_slot slot).1, session?, slot]
    have passed : s.prepare camera.session =
        { s with preparing := [], queue := [.configurePreview camera.session] } := by
      simp [CameraSystem.prepare, current, visible, senders, submit, preparing, queue]
    rw [passed]
    exact .negotiating camera idle slot unannounced rfl rfl
  | ordered _ _ _ biding => simp [biding.preparing] at prepares
  | opening _ _ _ _ preparing | configuring _ _ _ _ _ _ _ preparing
  | negotiating _ _ _ _ _ preparing | resizing _ _ _ _ _ _ preparing =>
    simp [preparing] at prepares

/-- Whatever task makes a step, the session stays on its way or is announced, unless the executor
crashes. -/
theorem Approach.step (h : s.Approach) (steady : s.Steady cameras) (complete : Complete cameras)
    (visible : s.viewport.isEmpty = false)
    (offers : ∀ camera, s.slot = some camera → s.negotiated? camera ≠ none) {task : Task}
    (ready : s.ready task = true) (uncrashed : (s.step task).executor.stage ≠ .crashed)
    (published : (s.step task).published = s.published ++ fresh) :
    (s.step task).Reaches fresh := by
  obtain ⟨held, secured⟩ := steady.previewed.tuned.sound.secured
  by_cases own : task = .executor
  · subst own
    exact h.of_turn steady complete offers uncrashed (secured.turn ready) published
  have silent := silent_of_other own published
  have undisturbed := s.step_undisturbed own
  refine .inl ⟨?_, silent⟩
  cases task with
  | executor => exact absurd rfl own
  | preparation session =>
    simp only [CameraSystem.ready, Bool.and_eq_true, List.contains_iff_mem] at ready
    exact h.prepare secured (by simp [hasSenders, steady.inUse]) visible ready.1
  | job id =>
    obtain ⟨j, found, -⟩ := Option.any_eq_true _ _ |>.1 ready
    simp only [CameraSystem.step, found] at undisturbed ⊢
    exact h.of_same undisturbed (s.jobStep_sameDemand j)
  | bridge feed =>
    obtain ⟨b, found, -⟩ := Option.any_eq_true _ _ |>.1 ready
    simp only [CameraSystem.step, found] at undisturbed ⊢
    exact h.of_same undisturbed (s.bridgeStep_sameDemand b).1
  | delivery device => exact h.of_same undisturbed (s.send_sameDemand device).1
  | arrival job => exact h.of_same undisturbed (s.arrive_sameDemand job).1

theorem Biding.ready {c : Command} {before rest : List Command} (h : s.Biding before (c :: rest)) :
    s.ready .executor = true := by
  have aside := h.stage
  show s.executorReady = true
  unfold executorReady
  split
  · simp [h.queue]
  · next stopped =>
    rw [stopped] at aside
    cases aside
  · next crashed =>
    rw [crashed] at aside
    cases aside
  · rfl

/-- As long as a session is on its way there is a task that can make a step. -/
theorem Approach.ready (h : s.Approach) (visible : s.viewport.isEmpty = false) :
    ∃ task, s.ready task = true := by
  cases h with
  | ordered before facing request biding => exact ⟨.executor, biding.ready⟩
  | opening _ _ stage | configuring _ _ _ _ _ stage | resizing _ _ _ stage =>
    exact ⟨.executor, by simp [CameraSystem.ready, executorReady, stage]⟩
  | preparing camera idle slot unannounced queue preparing =>
    exact ⟨.preparation camera.session, by simp [CameraSystem.ready, preparing, wakes, visible]⟩
  | negotiating camera idle slot unannounced queue =>
    exact ⟨.executor, by simp [CameraSystem.ready, executorReady, idle, queue]⟩

end

end CameraSystem

end Viewfinder
