import Viewfinder.Proofs.Agreement

/-!
# The published history

What is published of opening and closing is a sequence of episodes, one for each accepted request to
open and in their order. An episode begins with the attempt, goes on with its outcome and ends with
the camera closed; only the last can still be under way.
-/

namespace Viewfinder

/-- How far an episode has come. -/
inductive Progress where
  | opening
  | opened
  | closing
  | closed
  | failed (reason : FailureReason)
deriving DecidableEq, Repr

/-- What became of one request to open. -/
structure Episode where
  facing : Facing
  progress : Progress
deriving DecidableEq, Repr

namespace Progress

/-- Nothing more will come of it. -/
def ended : Progress → Bool
  | closed | failed _ => true
  | _ => false

/-- The camera was opened. -/
def served : Progress → Bool
  | opened | closing | closed => true
  | _ => false

def state : Progress → HandleState
  | opening => .opening
  | opened => .opened
  | closing => .closing
  | closed | failed _ => .closed

/-- What is published after the attempt to open. -/
def outcome (facing : Facing) : Progress → List Event
  | opening => []
  | opened => [.stateChanged .opening .opened facing]
  | closing => [.stateChanged .opening .opened facing, .stateChanged .opened .closing facing]
  | closed =>
    [.stateChanged .opening .opened facing, .stateChanged .opened .closing facing,
      .stateChanged .closing .closed facing]
  | failed reason => [.stateChanged .opening .closed facing, .failed facing reason]

theorem served_or_failed {p : Progress} (ended : p.ended = true) :
    p.served = true ∨ ∃ reason, p = .failed reason := by
  cases p with
  | opening | opened | closing => cases ended
  | closed => exact .inl rfl
  | failed reason => exact .inr ⟨reason, rfl⟩

end Progress

/-- What is published of an episode. -/
def Episode.events (e : Episode) : List Event :=
  .stateChanged .closed .opening e.facing :: e.progress.outcome e.facing

namespace Phase

/-- The episode that is under way. -/
def episode : Phase → List Episode
  | closed => []
  | opening facing _ | configuring facing _ => [⟨facing, .opening⟩]
  | opened facing => [⟨facing, .opened⟩]
  | closing facing => [⟨facing, .closing⟩]

/-- The facing of the device that is open. -/
def acquired : Phase → List Facing
  | configuring facing _ | opened facing | closing facing => [facing]
  | _ => []

@[simp] theorem episode_closed : closed.episode = [] := rfl

@[simp] theorem acquired_closed : closed.acquired = [] := rfl

end Phase

namespace Lifecycle

/-- The journal and the history tell of the episodes that are over, and of the one under way, what
became of the requests accepted so far. -/
structure Chronicle (l : Lifecycle) (accepted : List Facing) (past : List Episode) : Prop where
  ended : ∀ e ∈ past, e.progress.ended = true
  why : ∀ e ∈ past, ∀ reason, e.progress = .failed reason →
    (reason = .noCamera ↔ Missing l.cameras e.facing)
  journal : l.journal = (past ++ l.phase.episode).flatMap Episode.events
  accepted : accepted = (past ++ l.phase.episode).map (·.facing) ++ l.orders.filterMap Order.target
  history : l.history = (past.filter (·.progress.served)).map (·.facing) ++ l.phase.acquired

variable {l : Lifecycle} {asked : List Facing} {past : List Episode}

/-- An order to open that waits. -/
theorem Chronicle.wait (h : l.Chronicle asked past) (orders : List Order) (requests : Requests) :
    { l with requests := requests, orders := l.orders ++ orders }.Chronicle
      (asked ++ orders.filterMap Order.target) past :=
  ⟨h.ended, h.why, h.journal, by simp [h.accepted], h.history⟩

/-- The episode under way goes on, or the next begins. -/
theorem Chronicle.advance (h : l.Chronicle asked past) (phase : Phase) (orders : List Order)
    (events : List Event) (history : List Facing)
    (journal : phase.episode.flatMap Episode.events =
      l.phase.episode.flatMap Episode.events ++ events)
    (accepted : phase.episode.map (·.facing) ++ orders.filterMap Order.target =
      l.phase.episode.map (·.facing) ++ l.orders.filterMap Order.target)
    (acquired : l.phase.acquired ++ history = phase.acquired) :
    { l with
      phase := phase
      orders := orders
      journal := l.journal ++ events
      history := l.history ++ history }.Chronicle asked past := by
  refine ⟨h.ended, h.why, ?_, ?_, ?_⟩
  · simp [h.journal, journal]
  · simp [h.accepted, accepted]
  · simp [h.history, acquired]

/-- The episode under way is over. -/
theorem Chronicle.finish (h : l.Chronicle asked past) (e : Episode) (events : List Event)
    (requests : Requests) (ended : e.progress.ended = true)
    (why : ∀ reason, e.progress = .failed reason →
      (reason = .noCamera ↔ Missing l.cameras e.facing))
    (journal : e.events = l.phase.episode.flatMap Episode.events ++ events)
    (accepted : l.phase.episode.map (·.facing) = [e.facing])
    (acquired : l.phase.acquired = ([e].filter (·.progress.served)).map (·.facing)) :
    { l with
      phase := .closed
      requests := requests
      journal := l.journal ++ events }.Chronicle asked (past ++ [e]) := by
  refine ⟨?_, ?_, ?_, ?_, ?_⟩
  · simpa [or_imp, forall_and, ended] using h.ended
  · simpa [or_imp, forall_and, why] using And.intro h.why why
  · simp [h.journal, journal]
  · simp [h.accepted, accepted]
  · simp [h.history, acquired]

theorem Chronicle.step (h : l.Chronicle asked past) (agrees : l.Agrees) {accepted : Option Facing}
    {l' : Lifecycle} (step : l.Step accepted l') :
    ∃ past', l'.Chronicle (asked ++ accepted.toList) past' := by
  cases step with
  | quiet => exact ⟨past, by simpa using h⟩
  | start facing => exact ⟨past, h.wait [.opens facing _] _⟩
  | pause =>
    have waits := h.wait [.closes] { l.requests with started := false }
    exact ⟨past, by simpa [List.filterMap_cons, Order.target] using waits⟩
  | swap =>
    refine ⟨past, ?_⟩
    have waits := h.wait ((if l.requests.started then [.closes] else []) ++
      [.opens l.requests.facing.toggled (l.requests.newest + 1)])
      ⟨true, l.requests.facing.toggled, l.requests.newest + 1⟩
    cases started : l.requests.started <;>
      simpa [started, List.filterMap_cons, Order.target] using waits
  | drop => exact ⟨past, by simpa using ⟨h.ended, h.why, h.journal, h.accepted, h.history⟩⟩
  | takeOpen facing request rest phase orders =>
    have begins := h.advance (.opening facing request) rest
      [.stateChanged .closed .opening facing] []
      (by simp [phase, Phase.episode, Episode.events, Progress.outcome])
      (by simp [phase, orders, Phase.episode, Order.target]) (by simp [phase, Phase.acquired])
    exact ⟨past, by simpa using begins⟩
  | skipOpen open_ facing request rest phase orders =>
    simpa [phase, Phase.target] using agrees.target_of_opens orders
  | takeClose facing rest phase orders =>
    have closes := h.advance (.closing facing) rest [.stateChanged .opened .closing facing] []
      (by simp [phase, Phase.episode, Episode.events, Progress.outcome])
      (by simp [phase, orders, Phase.episode, List.filterMap_cons, Order.target])
      (by simp [phase, Phase.acquired])
    exact ⟨past, by simpa using closes⟩
  | skipClose rest phase orders =>
    have skips := h.advance .closed rest [] [] (by simp [phase])
      (by simp [phase, orders, List.filterMap_cons, Order.target]) (by simp [phase])
    exact ⟨past, by simpa [← phase] using skips⟩
  | finish facing inUse phase orders =>
    have closes := h.advance (.closing facing) l.orders [.stateChanged .opened .closing facing] []
      (by simp [phase, Phase.episode, Episode.events, Progress.outcome])
      (by simp [phase, Phase.episode]) (by simp [phase, Phase.acquired])
    exact ⟨past, by simpa using closes⟩
  | fail facing request reason phase why =>
    have ended := h.finish ⟨facing, .failed reason⟩
      [.stateChanged .opening .closed facing, .failed facing reason]
      { l.requests with started := l.requests.started && l.requests.newest != request } rfl
      (by rintro _ ⟨⟩; exact why)
      (by simp [phase, Phase.episode, Episode.events, Progress.outcome])
      (by simp [phase, Phase.episode]) (by simp [phase, Phase.acquired, Progress.served])
    exact ⟨_, by simpa using ended⟩
  | acquire facing request phase =>
    have acquires := h.advance (.configuring facing request) l.orders [] [facing]
      (by simp [phase, Phase.episode]) (by simp [phase, Phase.episode])
      (by simp [phase, Phase.acquired])
    exact ⟨past, by simpa using acquires⟩
  | install facing request phase =>
    have opens := h.advance (.opened facing) l.orders [.stateChanged .opening .opened facing] []
      (by simp [phase, Phase.episode, Episode.events, Progress.outcome])
      (by simp [phase, Phase.episode]) (by simp [phase, Phase.acquired])
    exact ⟨past, by simpa using opens⟩
  | forget facing phase =>
    have ended := h.finish ⟨facing, .closed⟩ [.stateChanged .closing .closed facing] l.requests rfl
      (by simp) (by simp [phase, Phase.episode, Episode.events, Progress.outcome])
      (by simp [phase, Phase.episode]) (by simp [phase, Phase.acquired, Progress.served])
    exact ⟨_, by simpa using ended⟩

end Lifecycle

/-! ## Changes of state -/

structure Change where
  before : HandleState
  after : HandleState
  facing : Facing
deriving DecidableEq, Repr

def Event.change? : Event → Option Change
  | .stateChanged before after facing => some ⟨before, after, facing⟩
  | _ => none

namespace Change

/-- The steps that a handle can take. -/
def Legal (c : Change) : Prop :=
  (c.before, c.after) ∈ [(HandleState.closed, HandleState.opening), (.opening, .opened),
    (.opening, .closed), (.opened, .closing), (.closing, .closed)]

/-- A change goes on where the one before it ended, and with the same camera until it is closed. -/
def Follows (c d : Change) : Prop := d.before = c.after ∧ (c.after ≠ .closed → d.facing = c.facing)

/-- Changes that lead from a closed handle to `state`, step by step. -/
structure Unbroken (changes : List Change) (state : HandleState) : Prop where
  chain : changes.IsChain Follows
  first : ∀ c ∈ changes.head?, c.before = .closed
  last : changes.getLast?.elim .closed Change.after = state
  legal : ∀ c ∈ changes, c.Legal

theorem unbroken_nil : Unbroken [] .closed := by
  constructor <;> simp

/-- What begins with a closed handle can follow what ended with one. -/
theorem Unbroken.append {changes more : List Change} {state : HandleState}
    (h : Unbroken changes .closed) (h' : Unbroken more state) :
    Unbroken (changes ++ more) state := by
  cases last : more.getLast? with
  | none =>
    obtain rfl := List.getLast?_eq_none_iff.1 last
    obtain rfl : HandleState.closed = state := h'.last
    rwa [List.append_nil]
  | some d =>
    refine ⟨List.isChain_append.2 ⟨h.chain, h'.chain, ?_⟩, ?_, ?_, ?_⟩
    · intro c mem e head
      have closed : c.after = .closed := by simpa [Option.mem_def.1 mem] using h.last
      exact ⟨(h'.first e head).trans closed.symm, fun going => absurd closed going⟩
    · intro c mem
      cases changes with
      | nil => exact h'.first c mem
      | cons x rest => exact h.first c mem
    · rw [List.getLast?_append, last]
      simpa [last] using h'.last
    · simpa [or_imp, forall_and] using And.intro h.legal h'.legal

end Change

/-- The changes of state that are published of an episode. -/
def Episode.changes (e : Episode) : List Change := e.events.filterMap Event.change?

theorem Episode.unbroken (e : Episode) : Change.Unbroken e.changes e.progress.state := by
  obtain ⟨facing, progress⟩ := e
  cases progress <;> constructor <;>
    simp [changes, events, Progress.outcome, Progress.state, List.filterMap_cons, Event.change?,
      Change.Follows, Change.Legal]

theorem unbroken_of_ended {past : List Episode} (all : ∀ e ∈ past, e.progress.ended = true) :
    Change.Unbroken (past.flatMap Episode.changes) .closed := by
  induction past with
  | nil => exact Change.unbroken_nil
  | cons e rest ih =>
    have closed : e.progress.state = .closed := by
      have ended := all e (by simp)
      cases progress : e.progress <;> simp_all [Progress.ended, Progress.state]
    exact (closed ▸ e.unbroken).append (ih fun e' mem => all e' (by simp [mem]))

theorem Phase.unbroken (phase : Phase) :
    Change.Unbroken (phase.episode.flatMap Episode.changes) phase.state := by
  cases phase with
  | closed => exact Change.unbroken_nil
  | opening facing | configuring facing | opened facing | closing facing =>
    exact List.flatMap_singleton Episode.changes _ ▸ Episode.unbroken _

/-- Every episode begins with one attempt to open. -/
theorem countP_opening (episodes : List Episode) :
    (episodes.flatMap Episode.changes).countP (·.after = .opening) = episodes.length := by
  induction episodes with
  | nil => rfl
  | cons e rest ih =>
    obtain ⟨facing, progress⟩ := e
    rw [List.flatMap_cons, List.countP_append, ih, List.length_cons]
    cases progress <;>
      simp [Episode.changes, Episode.events, Progress.outcome, List.filterMap_cons,
        Event.change?] <;>
      omega

namespace CameraSystem

variable {s t : CameraSystem (Simulator Ticket)} {held : Option Nat}

/-- The changes of state that were published, oldest first. -/
def changes {σ : Type} (s : CameraSystem σ) : List Change :=
  s.bus.published.toList.filterMap Event.change?

theorem changes_eq {σ : Type} (s : CameraSystem σ) :
    s.changes = s.journal.filterMap Event.change? := by
  simp only [changes, journal, List.filterMap_filter]
  refine List.filterMap_congr fun e _ => ?_
  cases e <;> rfl

/-- The facings of the requests to open that are accepted in a run, in their order. -/
def asked (s : CameraSystem (Simulator Ticket)) : List Move → List Facing
  | [] => []
  | m :: rest => (s.accepts? m).toList ++ (s.move m).asked rest

theorem chronicle_of_run? {moves : List Move} {earlier : List Facing} {past : List Episode}
    (run : s.run? moves = some t) (secured : s.Secured held) (agrees : s.lifecycle.Agrees)
    (chronicle : s.lifecycle.Chronicle earlier past) :
    ∃ held' past', t.Secured held' ∧ t.service.cameras = s.service.cameras ∧
      t.lifecycle.Chronicle (earlier ++ s.asked moves) past' := by
  induction moves generalizing s held earlier past with
  | nil =>
    cases run
    exact ⟨held, past, secured, rfl, by simpa [asked] using chronicle⟩
  | cons m rest ih =>
    obtain ⟨allowed, run⟩ := run?_cons_eq_some.1 run
    have step := lifecycle_move secured allowed
    obtain ⟨held', secured'⟩ := secured.move allowed
    obtain ⟨past', chronicle'⟩ := chronicle.step agrees step
    obtain ⟨held'', past'', secured'', cameras, told⟩ :=
      ih run secured' (agrees.step step) chronicle'
    exact ⟨held'', past'', secured'', cameras.trans step.cameras, by simpa [asked] using told⟩

/-- In every run the changes of state that are published form an unbroken history, and all that is
published of opening and closing are the episodes of the requests to open that were accepted, in the
order in which they were made. A failure tells that there is no such camera just if there is none.
The devices that were opened are those of the episodes that were served. Once no order is left, each
request was either served or has failed. -/
theorem lifecycle_history {settings : Settings} {cameras : List CameraSpec} {capacity : Nat}
    {facing : Facing} {moves : List Move}
    (run : (ofCameras settings cameras capacity facing).run? moves = some t) :
    Change.Unbroken t.changes t.state ∧
    ∃ past : List Episode,
      (∀ e ∈ past, e.progress.ended = true) ∧
      (∀ e ∈ past, ∀ reason, e.progress = .failed reason →
        (reason = .noCamera ↔ ∀ spec ∈ cameras, spec.sensor.facing ≠ e.facing)) ∧
      t.journal = (past ++ t.lifecycle.phase.episode).flatMap Episode.events ∧
      (ofCameras settings cameras capacity facing).asked moves =
        (past ++ t.lifecycle.phase.episode).map (·.facing) ++
          t.lifecycle.orders.filterMap Order.target ∧
      t.service.history =
        (past.filter (·.progress.served)).map (·.facing) ++ t.lifecycle.phase.acquired ∧
      (t.Settled →
        (∀ e ∈ past ++ t.lifecycle.phase.episode,
          e.progress.served = true ∨ ∃ reason, e.progress = .failed reason) ∧
        t.changes.countP (·.after = .opening) =
            ((ofCameras settings cameras capacity facing).asked moves).length ∧
          t.service.history =
            ((past ++ t.lifecycle.phase.episode).filter (·.progress.served)).map (·.facing)) := by
  have fresh : (ofCameras settings cameras capacity facing).lifecycle.Chronicle [] [] := by
    refine ⟨by simp, by simp, rfl, rfl, rfl⟩
  obtain ⟨held, past, secured, same, chronicle⟩ := chronicle_of_run? run
    (secured_ofCameras settings cameras capacity facing)
    (Lifecycle.agrees_of_fresh rfl rfl rfl rfl) fresh
  have changes : t.changes = (past ++ t.lifecycle.phase.episode).flatMap Episode.changes := by
    rw [changes_eq, show t.journal = _ from chronicle.journal, List.filterMap_flatMap]
    rfl
  refine ⟨?_, past, chronicle.ended, ?_, chronicle.journal, by simpa using chronicle.accepted,
    chronicle.history, ?_⟩
  · rw [changes, List.flatMap_append, secured.state_eq]
    exact (unbroken_of_ended chronicle.ended).append (Phase.unbroken _)
  · intro e mem reason failed
    have cameras : t.lifecycle.cameras = cameras := same
    exact cameras ▸ chronicle.why e mem reason failed
  · intro settled
    obtain ⟨orders, phase⟩ := settled.phase
    have told := chronicle.accepted
    have history := chronicle.history
    rw [orders] at told
    refine ⟨?_, ?_, ?_⟩
    · intro e mem
      rcases List.mem_append.1 mem with earlier | underway
      · exact Progress.served_or_failed (chronicle.ended e earlier)
      · rw [phase] at underway
        cases slot : t.slot with
        | none => simp [slot, Phase.episode] at underway
        | some camera =>
          simp only [slot, Option.elim, Phase.episode, List.mem_singleton] at underway
          exact .inl (underway ▸ rfl)
    · rw [changes, countP_opening]
      simpa using (congrArg List.length told).symm
    · rw [show t.service.history = _ from history, phase]
      cases t.slot with
      | none => simp
      | some camera => simp [Phase.acquired, Phase.episode, Progress.served]

/-- A camera that does not exist, then one that does, which is closed again. -/
def missingThenServed : List Move :=
  .flatten [[.request (.start .front)], turns 2, [.request (.start .back)], turns 7,
    [.request .pause], turns 4]

theorem lifecycle_history_missingThenServed :
    ∃ t, (ofCameras {} Simulator.singleBack 64 .back).run? missingThenServed = some t ∧
      t.Settled ∧ t.state = .closed ∧ Change.Unbroken t.changes .closed ∧
      t.changes.countP (·.after = .opening) = 2 ∧ t.service.history = [.back] := by
  obtain ⟨t, run, settled, state, asked, history⟩ :
      ∃ t, (ofCameras {} Simulator.singleBack 64 .back).run? missingThenServed = some t ∧
        t.Settled ∧ t.state = .closed ∧
        (ofCameras {} Simulator.singleBack 64 .back).asked missingThenServed = [.front, .back] ∧
        t.service.history = [.back] :=
    ⟨_, rfl, ⟨List.forall_mem_nil _, rfl⟩, rfl, rfl, rfl⟩
  obtain ⟨unbroken, past, -, -, -, -, -, drained⟩ := lifecycle_history run
  refine ⟨t, run, settled, state, state ▸ unbroken, ?_, history⟩
  rw [(drained settled).2.1, asked]
  rfl

end CameraSystem

end Viewfinder
