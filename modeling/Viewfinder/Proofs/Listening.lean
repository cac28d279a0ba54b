import Viewfinder.Proofs.Commands
import Viewfinder.Proofs.Departure
import Viewfinder.Proofs.Feeds
import Viewfinder.Proofs.Trace

/-!
# What listeners hear

One listener is set at a time and hears from a bridge with a feed of its own. Setting another takes
the bridge down, and what its feed still holds is left behind: nobody hears of it. All else that was
published for listeners since the first of them was set is heard, once and in order.
-/

namespace Viewfinder

namespace EventBus

variable {b : EventBus}

theorem published_run_publish (b : EventBus) (events : List Event) :
    (b.run (events.map .publish)).published.toList = b.published.toList ++ events := by
  induction events generalizing b with
  | nil => exact (List.append_nil _).symm
  | cons e rest ih =>
    refine (ih (b.publish e).2).trans ?_
    rw [published_publish, Array.toList_push, List.append_assoc]
    rfl

theorem feedCount_run_publish (b : EventBus) (events : List Event) :
    (b.run (events.map .publish)).feedCount = b.feedCount := by
  induction events generalizing b with
  | nil => rfl
  | cons e rest ih =>
    refine (ih (b.publish e).2).trans ?_
    unfold publish
    split <;> rfl

/-- To publish adds to a feed that is read what is for listeners. -/
theorem Proper.mem_feeds_run_publish (h : b.Proper) {id : Nat} {queue : List Event}
    (mem : ⟨id, queue, true⟩ ∈ b.feeds) (events : List Event) :
    ⟨id, queue ++ events.filter Event.forListener, true⟩ ∈
      (b.run (events.map .publish)).feeds := by
  have untaken (b : EventBus) : b.along (takes? id) (events.map .publish) = [] := by
    induction events generalizing b with
    | nil => rfl
    | cons e rest ih => exact ih (b.publish e).2
  have heard : (events.map BusMove.publish).filterMap BusMove.heard? =
      events.filter Event.forListener := by
    rw [List.filterMap_map, ← List.filterMap_eq_filter]
    refine List.filterMap_congr fun e _ => ?_
    cases told : e.forListener <;> simp [BusMove.heard?, told, Option.guard]
  have stays : BusMove.detach id ∉ events.map .publish := by simp
  obtain ⟨left, kept, eq⟩ := h.mem_feeds_run mem stays
  rw [untaken b, heard, List.nil_append] at eq
  rwa [← eq]

/-- What waits in a feed that is read. -/
def waiting (b : EventBus) (id : Nat) : List Event :=
  ((b.feeds.find? fun f => f.id = id ∧ f.attached).map (·.queue)).getD []

theorem Proper.waiting_eq (h : b.Proper) {id : Nat} {queue : List Event}
    (mem : ⟨id, queue, true⟩ ∈ b.feeds) : b.waiting id = queue := by
  rw [waiting, h.find?_feed mem]
  rfl

end EventBus

/-- Only events for listeners lead to calls. -/
theorem filterMap_call?_filter (events : List Event) :
    (events.filter Event.forListener).filterMap Event.call? = events.filterMap Event.call? := by
  rw [List.filterMap_filter]
  refine List.filterMap_congr fun e _ => ?_
  cases e <;> rfl

/-- Whether the request changes who reads the bus. -/
def Request.listens : Request → Bool
  | setListener | clearListener | subscribe | drop => true
  | _ => false

namespace CameraSystem

section

variable {σ : Type}

/-- Between two systems events were published, but no reader came, read or went. -/
structure OnlyPublishes (s t : CameraSystem σ) : Prop where
  bus : ∃ events : List Event, t.bus = s.bus.run (events.map .publish)
  bridges : t.bridges = s.bridges
  listening : t.listening = s.listening
  heard : t.heard = s.heard

variable [CameraService σ] {s : CameraSystem σ}

theorem onlyPublishes_request (s : CameraSystem σ) {r : Request} (other : r.listens = false) :
    OnlyPublishes s (s.request r) := by
  cases r with
  | setListener | clearListener | subscribe | drop => cases other
  | _ =>
    simp only [request, start, openRequest, pause, swap, setViewport, turnDevice, tiltDevice,
      focusOn, takePicture, barrier, submit]
    repeat' (first | exact ⟨⟨[], rfl⟩, rfl, rfl, rfl⟩ | split)

omit [CameraService σ] in
theorem onlyPublishes_beginClose (s : CameraSystem σ) (last : Bool) :
    OnlyPublishes s (s.beginClose last) := by
  unfold beginClose
  split
  · exact ⟨⟨[], rfl⟩, rfl, rfl, rfl⟩
  · exact ⟨⟨[_], rfl⟩, rfl, rfl, rfl⟩

theorem onlyPublishes_execute (s : CameraSystem σ) (c : Command) :
    OnlyPublishes s (s.execute c) := by
  cases c with
  | closeCamera => exact onlyPublishes_beginClose s false
  | _ =>
    simp only [execute, configurePreview, announce, refreshOrientation, applyFocus]
    repeat' (first
      | exact ⟨⟨[], rfl⟩, rfl, rfl, rfl⟩ | exact ⟨⟨[_], rfl⟩, rfl, rfl, rfl⟩ | split)

omit [CameraService σ] in
theorem onlyPublishes_failOpen (s : CameraSystem σ) (facing : Facing) (request : Nat)
    (e : CameraError) : OnlyPublishes s (s.failOpen facing request e) := by
  rw [failOpen, withdraw_eq]
  exact ⟨⟨[_, _], rfl⟩, rfl, rfl, rfl⟩

omit [CameraService σ] in
theorem onlyPublishes_resume (s : CameraSystem σ) (routine : Routine) (next : Continuation) :
    OnlyPublishes s (s.resume routine next) := by
  cases next with
  | install facing request camera o =>
    simp only [resume, install, abandon]
    split
    · exact ⟨⟨[_, _], rfl⟩, rfl, rfl, rfl⟩
    · exact ⟨⟨[], rfl⟩, rfl, rfl, rfl⟩
    · exact ⟨⟨[], rfl⟩, rfl, rfl, rfl⟩
  | abandon facing request e => exact s.onlyPublishes_failOpen facing request e
  | forget facing last => exact ⟨⟨[_], rfl⟩, rfl, rfl, rfl⟩
  | resize camera size | turn o | focus request =>
    simp only [resume, announce]
    repeat' (first
      | exact ⟨⟨[], rfl⟩, rfl, rfl, rfl⟩ | exact ⟨⟨[_], rfl⟩, rfl, rfl, rfl⟩ | split)

theorem onlyPublishes_openNatively (s : CameraSystem σ) (facing : Facing) (request : Nat) :
    OnlyPublishes s (s.openNatively facing request) := by
  have fails (service : σ) (e : CameraError) :
      OnlyPublishes s ({ s with service := service }.failOpen facing request e) := by
    have failed := onlyPublishes_failOpen { s with service := service } facing request e
    exact ⟨failed.bus, failed.bridges, failed.listening, failed.heard⟩
  unfold openNatively
  split
  · exact s.onlyPublishes_failOpen facing request _
  · split
    · exact fails _ _
    · exact fails _ _
    · exact ⟨⟨[], rfl⟩, rfl, rfl, rfl⟩

theorem onlyPublishes_executorStep (s : CameraSystem σ) : OnlyPublishes s s.executorStep := by
  unfold executorStep
  split
  · split
    · next c rest _ =>
      have executed := onlyPublishes_execute { s with queue := rest } c
      exact ⟨executed.bus, executed.bridges, executed.listening, executed.heard⟩
    · split
      · exact ⟨⟨[], rfl⟩, rfl, rfl, rfl⟩
      · exact s.onlyPublishes_beginClose true
  · exact s.onlyPublishes_openNatively _ _
  · split
    · exact s.onlyPublishes_resume _ _
    · exact ⟨⟨[], rfl⟩, rfl, rfl, rfl⟩
  all_goals exact ⟨⟨[], rfl⟩, rfl, rfl, rfl⟩

theorem onlyPublishes_jobStep (s : CameraSystem σ) (j : Job) :
    OnlyPublishes s (s.jobStep j) := by
  simp only [jobStep, requestFrame]
  repeat' (first
    | exact ⟨⟨[], rfl⟩, rfl, rfl, rfl⟩ | exact ⟨⟨[_], rfl⟩, rfl, rfl, rfl⟩ | split)

theorem onlyPublishes_send (s : CameraSystem σ) (device : Nat) :
    OnlyPublishes s (s.send device) := by
  unfold send
  split <;> exact ⟨⟨[], rfl⟩, rfl, rfl, rfl⟩

omit [CameraService σ] in
theorem onlyPublishes_arrive (s : CameraSystem σ) (job : Nat) :
    OnlyPublishes s (s.arrive job) := by
  simp only [arrive, handOver]
  repeat' (first | exact ⟨⟨[], rfl⟩, rfl, rfl, rfl⟩ | split)

/-- All tasks but the bridges only publish. -/
theorem onlyPublishes_step (s : CameraSystem σ) {t : Task} (other : ∀ feed, t ≠ .bridge feed) :
    OnlyPublishes s (s.step t) := by
  cases t with
  | executor => exact s.onlyPublishes_executorStep
  | preparation session =>
    simp only [step, prepare]
    split <;> exact ⟨⟨[], rfl⟩, rfl, rfl, rfl⟩
  | job id =>
    simp only [step]
    cases s.job? id with
    | none => exact ⟨⟨[], rfl⟩, rfl, rfl, rfl⟩
    | some j => exact s.onlyPublishes_jobStep j
  | bridge feed => exact absurd rfl (other feed)
  | delivery device => exact s.onlyPublishes_send device
  | arrival job => exact s.onlyPublishes_arrive job

end

/-! ## The listener that is set -/

section

variable {σ : Type}

/-- What a listener that is replaced has not heard of yet. -/
def leaves? (s : CameraSystem σ) : Move → Option (List Event)
  | .request .setListener => s.listening.map s.bus.waiting
  | _ => none

/-- The listener that is set hears from a bridge whose feed holds `queue`. The bridges before it are
down, and their listeners were not called after it. -/
structure Bridged (s : CameraSystem σ) (feed : Nat) (queue : List Event) : Prop where
  proper : s.bus.Proper
  listening : s.listening = some feed
  holds : ⟨feed, queue, true⟩ ∈ s.bus.feeds
  bridge : s.bridge? feed = some ⟨feed, true⟩
  known : ∀ b ∈ s.bridges, b.feed < s.bus.feedCount
  alone : ∀ b ∈ s.bridges, b.running = true → b.feed = feed
  turns : (s.heard.map (·.1) ++ [feed]).Pairwise (· ≤ ·)

variable {s t : CameraSystem σ} {feed : Nat} {queue : List Event}

theorem Bridged.lt (h : s.Bridged feed queue) : feed < s.bus.feedCount :=
  h.known _ (List.mem_of_find?_eq_some h.bridge)

theorem Bridged.of_onlyPublishes (h : s.Bridged feed queue) (only : OnlyPublishes s t) :
    ∃ fresh, t.Bridged feed (queue ++ fresh.filter Event.forListener) ∧
      t.published = s.published ++ fresh := by
  obtain ⟨fresh, bus⟩ := only.bus
  refine ⟨fresh, ?_, ?_⟩
  · exact {
      proper := bus ▸ h.proper.run _
      listening := only.listening.trans h.listening
      holds := bus ▸ h.proper.mem_feeds_run_publish h.holds fresh
      bridge := by
        rw [bridge?, only.bridges]
        exact h.bridge
      known := by
        rw [only.bridges, bus, EventBus.feedCount_run_publish]
        exact h.known
      alone := only.bridges ▸ h.alone
      turns := only.heard ▸ h.turns }
  · rw [published, bus, EventBus.published_run_publish]
    rfl

/-- No listener is set, and the bridges that there were are down. -/
structure Unheeded (s : CameraSystem σ) : Prop where
  proper : s.bus.Proper
  listening : s.listening = none
  known : ∀ b ∈ s.bridges, b.feed < s.bus.feedCount
  down : ∀ b ∈ s.bridges, b.running = false
  turns : (s.heard.map (·.1) ++ [s.bus.feedCount]).Pairwise (· ≤ ·)

theorem unheeded_ofService (settings : Settings) (service : σ) (capacity : Nat) (facing : Facing) :
    (ofService settings service capacity facing).Unheeded where
  proper := EventBus.proper_ofCapacity capacity
  listening := rfl
  known := by simp [ofService]
  down := by simp [ofService]
  turns := List.pairwise_singleton _ _

/-- Where no listener is set, one is set with a feed that was attached for it. -/
theorem Bridged.of_unheeded (h : s.Unheeded) : s.setListener.2.Bridged s.bus.feedCount [] := by
  have quiet : s.setListener.2 = { s with
      bus := s.bus.attach.2
      listening := some s.bus.feedCount
      bridges := s.bridges ++ [⟨s.bus.feedCount, true⟩] } := by
    simp [setListener, clearListener, h.listening, EventBus.attach]
  rw [quiet]
  refine ⟨h.proper.move .attach, rfl, ?_, ?_, ?_, ?_, h.turns⟩
  · simp [EventBus.attach]
  · have unknown : s.bridges.find? (fun b => b.feed = s.bus.feedCount) = none :=
      List.find?_eq_none.2 fun b mem same =>
        Nat.ne_of_lt (h.known b mem) (of_decide_eq_true same)
    simp [bridge?, List.find?_append, unknown]
  · intro b mem
    have lt : s.bus.feedCount < s.bus.attach.2.feedCount := Nat.lt_succ_self _
    rcases List.mem_append.1 mem with before | new
    · exact Nat.lt_trans (h.known b before) lt
    · rw [List.mem_singleton.1 new]
      exact lt
  · intro b mem running
    rcases List.mem_append.1 mem with before | new
    · cases (h.down b before).symm.trans running
    · rw [List.mem_singleton.1 new]

/-- To set a listener in the place of another is to clear the other first. -/
theorem setListener_eq (listening : s.listening = some feed) (lt : feed < s.bus.feedCount) :
    s.setListener.2 = s.clearListener.setListener.2 := by
  have other : s.bus.feedCount ≠ feed := Nat.ne_of_gt lt
  simp [setListener, clearListener, listening, EventBus.attach, EventBus.detach, other]

theorem Bridged.clearListener (h : s.Bridged feed queue) : s.clearListener.Unheeded := by
  have cleared : s.clearListener = { s with
      listening := none
      bus := s.bus.detach feed
      bridges := s.bridges.map fun b =>
        if b.feed = feed then { b with running := false } else b } := by
    simp [CameraSystem.clearListener, h.listening]
  rw [cleared]
  refine ⟨h.proper.move (.detach feed), rfl, ?_, ?_, ?_⟩
  · intro b mem
    obtain ⟨c, before, rfl⟩ := List.mem_map.1 mem
    split
    · exact h.known c before
    · exact h.known c before
  · intro b mem
    obtain ⟨c, before, rfl⟩ := List.mem_map.1 mem
    split
    · rfl
    · next other => exact Bool.eq_false_iff.2 fun running => other (h.alone c before running)
  · have lt := h.lt
    have turns := List.pairwise_append.1 h.turns
    refine List.pairwise_append.2 ⟨turns.1, List.pairwise_singleton _ _, ?_⟩
    intro i mem j last
    have le := turns.2.2 i mem feed (List.mem_singleton_self feed)
    obtain rfl := List.mem_singleton.1 last
    exact Nat.le_of_lt (Nat.lt_of_le_of_lt le lt)

/-- A bridge that makes a step calls the listener that is set for the oldest event of its feed. -/
theorem Bridged.bridgeStep (h : s.Bridged feed queue) {id : Nat} {b : Bridge}
    (found : s.bridge? id = some b) (enabled : b.enabled s.bus = true) :
    ∃ e rest, queue = e :: rest ∧ (s.bridgeStep b).Bridged feed rest ∧
      (s.bridgeStep b).heard = s.heard ++ (e.call?.map fun call => (feed, call)).toList := by
  have mem := List.mem_of_find?_eq_some found
  obtain ⟨i, running⟩ := b
  obtain ⟨rfl, going⟩ := Bool.and_eq_true_iff.1 enabled
  obtain rfl : i = feed := h.alone _ mem rfl
  have waits : queue ≠ [] := by
    rintro rfl
    rw [h.proper.find?_feed h.holds] at going
    simp [h.proper.going] at going
  obtain ⟨e, rest, rfl⟩ := List.exists_cons_of_ne_nil waits
  obtain ⟨received, left⟩ := h.proper.receiveFeed h.holds
  have made : (⟨i, true⟩ : Bridge).step s.bus = (e.call?, ⟨i, true⟩, (s.bus.receiveFeed i).2) := by
    have eq : s.bus.receiveFeed i = (.event e, (s.bus.receiveFeed i).2) := Prod.ext received rfl
    rw [Bridge.step, eq]
  have stepped : s.bridgeStep ⟨i, true⟩ = { s with
      bus := (s.bus.receiveFeed i).2
      bridges := s.bridges.map fun c => if c.feed = i then ⟨i, true⟩ else c
      heard := s.heard ++ (e.call?.map fun call => (i, call)).toList } := by
    rw [CameraSystem.bridgeStep, made]
  have count : (s.bus.receiveFeed i).2.feedCount = s.bus.feedCount := by
    obtain ⟨feeds, eq, -⟩ := s.bus.receiveFeed_eq i
    rw [eq]
  refine ⟨e, rest, rfl, ?_, by rw [stepped]⟩
  rw [stepped]
  refine ⟨h.proper.receiveFeed_move i, h.listening, left, ?_, ?_, ?_, ?_⟩
  · have same : ((fun c : Bridge => decide (c.feed = i)) ∘
        fun c => if c.feed = i then ⟨i, true⟩ else c) = fun c => decide (c.feed = i) := by
      funext c
      by_cases own : c.feed = i <;> simp [own]
    show List.find? _ (List.map _ s.bridges) = _
    rw [List.find?_map, same, show s.bridges.find? _ = _ from h.bridge]
    exact congrArg some (if_pos rfl)
  · intro c mem
    obtain ⟨c', before, rfl⟩ := List.mem_map.1 mem
    have known := h.known c' before
    rw [← count] at known
    split
    · next own => exact own ▸ known
    · exact known
  · intro c mem running
    obtain ⟨c', before, rfl⟩ := List.mem_map.1 mem
    by_cases own : c'.feed = i
    · rw [if_pos own]
    · rw [if_neg own] at running ⊢
      exact h.alone c' before running
  · rw [List.map_append, List.append_assoc]
    have turns := List.pairwise_append.1 h.turns
    refine List.pairwise_append.2 ⟨turns.1, ?_, ?_⟩
    · cases e.call? <;> simp
    · intro k mem l last
      refine turns.2.2 k mem l ?_
      cases called : e.call? <;> simpa [called] using last

end

/-! ## Runs -/

section

variable {σ : Type} [CameraService σ] [FaultInjection σ] {s t : CameraSystem σ} {feed : Nat}
  {queue : List Event}

/-- At a move what waits for the listener that is set, and what is published for listeners, is told,
left behind or waits. -/
theorem Bridged.move (h : s.Bridged feed queue) {m : Move} (enabled : s.enabled m = true)
    (kept : m ≠ .request .clearListener) (held : m ≠ .request .drop) :
    ∃ feed' queue' told fresh, (s.move m).Bridged feed' queue' ∧
      (s.move m).published = s.published ++ fresh ∧
      (s.move m).heard.map (·.2) = s.heard.map (·.2) ++ told.filterMap Event.call? ∧
      told ++ (s.leaves? m).toList.flatten ++ queue' = queue ++ fresh.filter Event.forListener := by
  have published_only {m : Move} (only : OnlyPublishes s (s.move m)) (stays : s.leaves? m = none) :
      ∃ feed' queue' told fresh, (s.move m).Bridged feed' queue' ∧
        (s.move m).published = s.published ++ fresh ∧
        (s.move m).heard.map (·.2) = s.heard.map (·.2) ++ told.filterMap Event.call? ∧
        told ++ (s.leaves? m).toList.flatten ++ queue' =
          queue ++ fresh.filter Event.forListener := by
    obtain ⟨fresh, bridged, published⟩ := h.of_onlyPublishes only
    refine ⟨feed, _, [], fresh, bridged, published, ?_, ?_⟩
    · rw [only.heard]
      exact (List.append_nil _).symm
    · rw [stays]
      rfl
  cases m with
  | setFaults faults => exact published_only ⟨⟨[], rfl⟩, rfl, rfl, rfl⟩ rfl
  | request r =>
    cases listens : r.listens with
    | false =>
      refine published_only (s.onlyPublishes_request listens) ?_
      cases r <;> first | rfl | cases listens
    | true =>
      cases r with
      | setListener =>
        have count : s.clearListener.bus.feedCount = s.bus.feedCount := by
          simp [CameraSystem.clearListener, h.listening, EventBus.detach]
        have eq := setListener_eq h.listening h.lt
        refine ⟨s.bus.feedCount, [], [], [], ?_, ?_, ?_, ?_⟩
        · rw [CameraSystem.move, request, eq, ← count]
          exact .of_unheeded h.clearListener
        · exact (s.published_request .setListener).trans (List.append_nil _).symm
        · refine Eq.trans ?_ (List.append_nil _).symm
          simp [CameraSystem.move, request, setListener, CameraSystem.clearListener, h.listening]
        · simp [leaves?, h.listening, h.proper.waiting_eq h.holds]
      | clearListener => exact absurd rfl kept
      | drop => exact absurd rfl held
      | subscribe =>
        refine ⟨feed, queue, [], [], ?_, ?_, (List.append_nil _).symm, by simp [leaves?]⟩
        · exact ⟨h.proper.move .subscribe, h.listening, h.holds, h.bridge, h.known, h.alone,
            h.turns⟩
        · exact (s.published_request .subscribe).trans (List.append_nil _).symm
      | _ => cases listens
  | task task =>
    by_cases bridge : ∃ id, task = .bridge id
    · obtain ⟨id, rfl⟩ := bridge
      obtain ⟨b, found, going⟩ := Option.any_eq_true _ _ |>.1 enabled
      obtain ⟨e, rest, rfl, bridged, heard⟩ := h.bridgeStep found going
      have eq : s.move (.task (.bridge id)) = s.bridgeStep b := by
        simp only [CameraSystem.move, step, found]
        rfl
      rw [eq]
      refine ⟨feed, rest, [e], [], bridged, ?_, ?_, by simp [leaves?]⟩
      · exact (s.bridgeStep_sameDemand b).2.trans (List.append_nil _).symm
      · rw [heard]
        cases called : e.call? <;> simp [called]
    · exact published_only (s.onlyPublishes_step fun id own => bridge ⟨id, own⟩) rfl

/-- Along a run all of it is told in order, left behind with a listener that is replaced, or waits
for the one that is set. -/
theorem Bridged.run (h : s.Bridged feed queue) {moves : List Move} (run : s.run? moves = some t)
    (kept : .request .clearListener ∉ moves) (held : .request .drop ∉ moves) :
    ∃ feed' queue' told fresh, t.Bridged feed' queue' ∧ t.published = s.published ++ fresh ∧
      t.heard.map (·.2) = s.heard.map (·.2) ++ told.filterMap Event.call? ∧
      (told ++ queue').Sublist (queue ++ fresh.filter Event.forListener) ∧
      (told ++ (s.along leaves? moves).flatten ++ queue').Perm
        (queue ++ fresh.filter Event.forListener) := by
  induction moves generalizing s feed queue with
  | nil =>
    cases run
    refine ⟨feed, queue, [], [], h, (List.append_nil _).symm, (List.append_nil _).symm, ?_, ?_⟩
    · simp
    · simp [along]
  | cons m rest ih =>
    obtain ⟨allowed, run⟩ := run?_cons_eq_some.1 run
    simp only [List.mem_cons, not_or] at kept held
    obtain ⟨feed₁, queue₁, told₁, fresh₁, bridged, published₁, heard₁, split₁⟩ :=
      h.move allowed (Ne.symm kept.1) (Ne.symm held.1)
    obtain ⟨feed₂, queue₂, told₂, fresh₂, bridged, published₂, heard₂, sublist, perm⟩ :=
      ih bridged run kept.2 held.2
    have whole : queue ++ (fresh₁ ++ fresh₂).filter Event.forListener =
        told₁ ++ ((s.leaves? m).toList.flatten ++
          (queue₁ ++ fresh₂.filter Event.forListener)) := by
      rw [List.filter_append, ← List.append_assoc queue, ← split₁]
      simp only [List.append_assoc]
    refine ⟨feed₂, queue₂, told₁ ++ told₂, fresh₁ ++ fresh₂, bridged, ?_, ?_, ?_, ?_⟩
    · rw [published₂, published₁, List.append_assoc]
    · rw [heard₂, heard₁, List.filterMap_append, List.append_assoc]
    · rw [whole, List.append_assoc]
      exact (sublist.trans (List.sublist_append_right _ _)).append_left told₁
    · rw [whole, along, List.flatten_append]
      simp only [List.append_assoc]
      refine List.Perm.append_left told₁ ((List.perm_append_comm_assoc told₂ _ _).trans ?_)
      rw [← List.append_assoc told₂]
      exact perm.append_left _

theorem Unheeded.move (h : s.Unheeded) {m : Move} (enabled : s.enabled m = true)
    (other : m ≠ .request .setListener) :
    (s.move m).Unheeded ∧ (s.move m).heard = s.heard := by
  have published_only (only : OnlyPublishes s (s.move m)) :
      (s.move m).Unheeded ∧ (s.move m).heard = s.heard := by
    obtain ⟨fresh, bus⟩ := only.bus
    have count : (s.move m).bus.feedCount = s.bus.feedCount := by
      rw [bus, EventBus.feedCount_run_publish]
    refine ⟨⟨bus ▸ h.proper.run _, only.listening.trans h.listening, ?_, only.bridges ▸ h.down, ?_⟩,
      only.heard⟩
    · rw [only.bridges, count]
      exact h.known
    · rw [only.heard, count]
      exact h.turns
  cases m with
  | setFaults faults => exact published_only ⟨⟨[], rfl⟩, rfl, rfl, rfl⟩
  | request r =>
    cases listens : r.listens with
    | false => exact published_only (s.onlyPublishes_request listens)
    | true =>
      have cleared : s.clearListener = s := by simp [CameraSystem.clearListener, h.listening]
      cases r with
      | setListener => exact absurd rfl other
      | clearListener =>
        rw [CameraSystem.move, request, cleared]
        exact ⟨h, rfl⟩
      | drop =>
        rw [CameraSystem.move, request, drop, cleared]
        exact ⟨⟨h.proper, h.listening, h.known, h.down, h.turns⟩, rfl⟩
      | subscribe =>
        exact ⟨⟨h.proper.move .subscribe, h.listening, h.known, h.down, h.turns⟩, rfl⟩
      | _ => cases listens
  | task task =>
    refine published_only (s.onlyPublishes_step ?_)
    rintro feed rfl
    -- a bridge that is down makes no step
    obtain ⟨b, found, going⟩ := Option.any_eq_true _ _ |>.1 enabled
    have down := h.down b (List.mem_of_find?_eq_some found)
    simp [Bridge.enabled, down] at going

/-- Before a listener is set none hears anything. -/
theorem Unheeded.run (h : s.Unheeded) {moves : List Move} (run : s.run? moves = some t)
    (first : .request .setListener ∉ moves) : t.Unheeded ∧ t.heard = s.heard := by
  induction moves generalizing s with
  | nil =>
    cases run
    exact ⟨h, rfl⟩
  | cons m rest ih =>
    obtain ⟨allowed, run⟩ := run?_cons_eq_some.1 run
    simp only [List.mem_cons, not_or] at first
    obtain ⟨moved, heard⟩ := h.move allowed (Ne.symm first.1)
    obtain ⟨unheeded, heard'⟩ := ih moved run first.2
    exact ⟨unheeded, heard'.trans heard⟩

omit [FaultInjection σ] in
/-- Nothing waits for the listener that is set when nothing can make a step. -/
theorem Bridged.waiting_eq_nil (h : s.Bridged feed queue) (rest : s.AtRest) : queue = [] := by
  have unready := rest (.bridge feed)
  simp only [ready, h.bridge, Option.any_some, Bridge.enabled, Bool.true_and,
    h.proper.find?_feed h.holds, h.proper.going, Bool.or_false] at unready
  simpa using unready

/-- What is published for listeners once the first of them is set is heard at most once, in order,
and by one listener after the other, whatever else happens and however often the listener is
replaced; what is not heard was left behind with a listener that was replaced, or waits for the one
that is set. So when nothing can make a step, all of it was heard if and only if no listener was
replaced before it had heard all that was published. -/
theorem listeners_hear {settings : Settings} {service : σ} {capacity : Nat} {facing : Facing}
    {before after : List Move}
    (first : .request .setListener ∉ before)
    (kept : .request .clearListener ∉ after) (held : .request .drop ∉ after)
    (run : (ofService settings service capacity facing).run?
      (before ++ .request .setListener :: after) = some t) :
    ∃ s, (ofService settings service capacity facing).run? before = some s ∧
      ∃ since waiting, t.published = s.published ++ since ∧
        let calls := since.filterMap Event.call?
        let left := (s.setListener.2.along leaves? after).flatten
        (t.heard.map (·.1)).Pairwise (· ≤ ·) ∧
          (t.heard.map (·.2)).Sublist calls ∧
          (t.heard.map (·.2) ++ (left ++ waiting).filterMap Event.call?).Perm calls ∧
          (t.AtRest → waiting = [] ∧ (t.heard.map (·.2) = calls ↔ left = [])) := by
  obtain ⟨s, begun, run⟩ := run?_append_eq_some.1 run
  obtain ⟨allowed, run⟩ := run?_cons_eq_some.1 run
  obtain ⟨unheeded, silent⟩ := (unheeded_ofService settings service capacity facing).run begun first
  obtain ⟨feed, waiting, told, since, bridged, published, heard, sublist, perm⟩ :=
    (Bridged.of_unheeded unheeded).run run kept held
  have calls := filterMap_call?_filter since
  have told_eq : t.heard.map (·.2) = told.filterMap Event.call? := by
    have same : s.setListener.2.heard = s.heard := by
      simp [setListener, CameraSystem.clearListener, unheeded.listening]
    rw [heard, same, silent]
    rfl
  rw [List.nil_append] at sublist perm
  have heard_sublist : (t.heard.map (·.2)).Sublist (since.filterMap Event.call?) := by
    rw [told_eq, ← calls]
    exact ((List.sublist_append_left told waiting).trans sublist).filterMap _
  have accounted : (t.heard.map (·.2) ++
      ((s.setListener.2.along leaves? after).flatten ++ waiting).filterMap Event.call?).Perm
        (since.filterMap Event.call?) := by
    rw [told_eq, ← calls, ← List.filterMap_append, ← List.append_assoc]
    exact perm.filterMap _
  refine ⟨s, begun, since, waiting, ?_, ?_, heard_sublist, accounted, fun rest => ?_⟩
  · rw [published,
      show s.setListener.2.published = s.published from s.published_request .setListener]
  · exact (List.pairwise_append.1 bridged.turns).1
  · obtain rfl := bridged.waiting_eq_nil rest
    refine ⟨rfl, fun whole => ?_, fun none => ?_⟩
    · have heeded : ∀ e ∈ (s.setListener.2.along leaves? after).flatten, e.forListener = true :=
        fun e mem => (List.mem_filter.1 (perm.subset (by simp [mem]))).2
      have lost := congrArg List.length (EventBus.map_some_call? heeded)
      have counted := accounted.length_eq
      rw [whole, List.length_append, List.append_nil] at counted
      rw [List.length_map, List.length_map] at lost
      exact List.length_eq_zero_iff.1 (by omega)
    · rw [none] at accounted
      exact heard_sublist.eq_of_length (by simpa using accounted.length_eq)

end

/-- An open fails and is asked for again; the listener is replaced once it has heard of the
first. -/
def relieved : List Move :=
  .flatten [
    [.setFaults { failingOpens := 1 }, .request .setListener, .request (.start .back)], turns 2,
    [.task (.bridge 0), .request .setListener, .request (.start .back),
      .request (.setViewport ⟨720, 1280⟩)], turns 7,
    [.task (.preparation 1)], turns 5, [.task (.bridge 1)]]

theorem listeners_hear_relieved :
    ∃ t, (ofCameras {} Simulator.dual 64 .back).run? relieved = some t ∧ t.AtRest ∧
      t.heard.map (·.2) = t.published.filterMap Event.call? ∧
      t.heard =
        [(0, .failed (.unavailable "Failed to open back camera: simulated hardware failure")),
          (1, .ready .back ⟨1920, 1080⟩)] := by
  have checked : ((ofCameras {} Simulator.dual 64 .back).run? relieved).any fun t =>
      t.heard =
        [(0, .failed (.unavailable "Failed to open back camera: simulated hardware failure")),
          (1, .ready .back ⟨1920, 1080⟩)] ∧
      ∀ task ∈ t.tasks, t.ready task = false := by
    decide +kernel
  obtain ⟨t, run, facts⟩ := Option.any_eq_true _ _ |>.1 checked
  obtain ⟨heard, unready⟩ := of_decide_eq_true facts
  have rest : t.AtRest := atRest_of_tasks unready
  have cut : relieved = relieved.take 1 ++ .request .setListener :: relieved.drop 2 := rfl
  rw [cut] at run
  obtain ⟨s, begun, since, waiting, published, -, -, -, told⟩ :=
    listeners_hear (by decide) (by decide) (by decide) run
  obtain rfl := Option.some.inj begun
  refine ⟨t, run, rest, ?_, heard⟩
  rw [published]
  exact (told rest).2.2 (by decide +kernel)

/-- The listener is replaced before it has heard that an open failed. -/
def replacedEarly : List Move :=
  [.setFaults { failingOpens := 1 }, .request .setListener, .request (.start .back),
    .task .executor, .task .executor, .request .setListener]

theorem replacedEarly_unheard :
    ∃ t, (ofCameras {} Simulator.dual 64 .back).run? replacedEarly = some t ∧ t.AtRest ∧
      t.published.filterMap Event.call? =
        [.failed (.unavailable "Failed to open back camera: simulated hardware failure")] ∧
      t.heard = [] := by
  have checked : ((ofCameras {} Simulator.dual 64 .back).run? replacedEarly).any fun t =>
      t.published.filterMap Event.call? =
        [.failed (.unavailable "Failed to open back camera: simulated hardware failure")] ∧
      t.heard = [] ∧ ∀ task ∈ t.tasks, t.ready task = false := by
    decide +kernel
  obtain ⟨t, run, facts⟩ := Option.any_eq_true _ _ |>.1 checked
  obtain ⟨published, heard, unready⟩ := of_decide_eq_true facts
  exact ⟨t, run, atRest_of_tasks unready, published, heard⟩

end CameraSystem

end Viewfinder
