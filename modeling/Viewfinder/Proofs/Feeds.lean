import Mathlib.Data.List.Induction
import Mathlib.Data.List.Nodup
import Viewfinder.Event.Listener

/-!
# What feeds hand on

Whoever has a bus publishes on it, and readers come, read and go, all in any order: `EventBus.run`
makes a list of such moves. A feed that is still read has handed on, or still holds, every event for
listeners that was published since it was attached, and nothing else (`Proper.mem_feeds_run`). The
feeds and the subscribers that are kept are those that came and did not go (`mem_iff_stays`).
-/

namespace Viewfinder

/-- What can be done with a bus. -/
inductive BusMove where
  | publish (e : Event)
  | subscribe
  | unsubscribe (id : Nat)
  | receive (id : Nat)
  | attach
  | detach (id : Nat)
  | receiveFeed (id : Nat)
  /-- The bridge that reads the feed makes a step. -/
  | pass (id : Nat)
deriving DecidableEq, Repr

/-- The event for listeners that is published. -/
def BusMove.heard? : BusMove → Option Event
  | publish e => if e.forListener then some e else none
  | _ => none

def Received.event? : Received → Option Event
  | event e => some e
  | _ => none

namespace EventBus

def move (b : EventBus) : BusMove → EventBus
  | .publish e => (b.publish e).2
  | .subscribe => b.subscribe.2
  | .unsubscribe id => b.unsubscribe id
  | .receive id => (b.receive id).2
  | .attach => b.attach.2
  | .detach id => b.detach id
  | .receiveFeed id => (b.receiveFeed id).2
  | .pass id => ((⟨id, true⟩ : Bridge).step b).2.2

def run (b : EventBus) (moves : List BusMove) : EventBus := moves.foldl move b

/-- Everything that `look` sees along some moves. -/
def along {α : Type} (look : EventBus → BusMove → Option α) (b : EventBus) : List BusMove → List α
  | [] => []
  | m :: rest => (look b m).toList ++ (b.move m).along look rest

/-- The event that a move takes from a feed. -/
def takes? (id : Nat) (b : EventBus) : BusMove → Option Event
  | .receiveFeed i | .pass i => if i = id then (b.receiveFeed id).1.event? else none
  | _ => none

/-- The feeds that somebody still reads. -/
def live (b : EventBus) : List Nat := (b.feeds.filter (·.attached)).map (·.id)

variable {b : EventBus} {id : Nat} {queue : List Event}

theorem run_append (b : EventBus) (before after : List BusMove) :
    b.run (before ++ after) = (b.run before).run after :=
  List.foldl_append

/-! ## Each move -/

/-- A subscriber that reads moves itself and nothing else. -/
theorem receive_eq (b : EventBus) (id : Nat) :
    ∃ subscribers, (b.receive id).2 = { b with subscribers := subscribers } ∧
      subscribers.map (·.id) = b.subscribers.map (·.id) := by
  have moved (position : Nat) :
      (b.subscribers.map fun t => if t.id = id then ⟨id, position⟩ else t).map Subscriber.id =
        b.subscribers.map (·.id) := by
    rw [List.map_map]
    refine List.map_congr_left fun t _ => ?_
    simp only [Function.comp]
    split
    · next own => exact own.symm
    · rfl
  unfold receive
  dsimp only
  repeat' split
  all_goals first | exact ⟨_, rfl, moved _⟩ | exact ⟨_, rfl, rfl⟩

/-- A feed that is read loses what is taken from it, and the others stay as they are. -/
theorem receiveFeed_eq (b : EventBus) (id : Nat) :
    ∃ feeds, (b.receiveFeed id).2 = { b with feeds := feeds } ∧
      feeds.map (fun f => (f.id, f.attached)) = b.feeds.map fun f => (f.id, f.attached) := by
  unfold receiveFeed
  split
  · exact ⟨_, rfl, rfl⟩
  · split
    · refine ⟨_, rfl, ?_⟩
      rw [List.map_map]
      refine List.map_congr_left fun f _ => ?_
      simp only [Function.comp]
      split <;> rfl
    · exact ⟨_, rfl, rfl⟩

theorem feeds_publish (b : EventBus) {e : Event} (heard : e.forListener = true) :
    (b.publish e).2.feeds =
      (b.feeds.filter (·.attached)).map fun f => { f with queue := f.queue ++ [e] } := by
  simp [publish, feed, heard]

theorem feeds_publish_other (b : EventBus) {e : Event} (unheard : e.forListener = false) :
    (b.publish e).2.feeds = b.feeds := by
  simp [publish, unheard]

/-- Readers are kept in the order in which their numbers were given out, and `count` comes next. -/
def Rising (ids : List Nat) (count : Nat) : Prop := (ids ++ [count]).Pairwise (· < ·)

theorem Rising.sublist {ids kept : List Nat} {count : Nat} (h : Rising ids count)
    (sub : kept.Sublist ids) : Rising kept count :=
  List.Pairwise.sublist (sub.append_right [count]) h

theorem Rising.lt {ids : List Nat} {count i : Nat} (h : Rising ids count) (mem : i ∈ ids) :
    i < count :=
  (List.pairwise_append.1 h).2.2 i mem count (List.mem_singleton_self count)

theorem Rising.concat {ids : List Nat} {count : Nat} (h : Rising ids count) :
    Rising (ids ++ [count]) (count + 1) := by
  refine List.pairwise_append.2 ⟨h, List.pairwise_singleton _ _, ?_⟩
  intro i mem j last
  obtain rfl := List.mem_singleton.1 last
  rcases List.mem_append.1 mem with before | last
  · have := h.lt before
    omega
  · have := List.mem_singleton.1 last
    omega

/-- A bus that is still in use, with the readers that it keeps. -/
structure Proper (b : EventBus) : Prop where
  going : b.closed = false
  feeds : Rising (b.feeds.map (·.id)) b.feedCount
  subscribers : Rising (b.subscribers.map (·.id)) b.subscriberCount

theorem proper_ofCapacity (capacity : Nat) : (ofCapacity capacity).Proper :=
  ⟨rfl, List.pairwise_singleton _ _, List.pairwise_singleton _ _⟩

/-- A feed is found by its number. -/
theorem Proper.feed_eq (h : b.Proper) {f g : Feed} (mem : f ∈ b.feeds) (mem' : g ∈ b.feeds)
    (same : f.id = g.id) : f = g := by
  have nodup : (b.feeds.map (·.id)).Nodup :=
    ((List.pairwise_append.1 h.feeds).1).imp fun lt => Nat.ne_of_lt lt
  exact List.inj_on_of_nodup_map nodup mem mem' same

theorem mem_live : id ∈ b.live ↔ ∃ queue, ⟨id, queue, true⟩ ∈ b.feeds := by
  simp only [live, List.mem_map, List.mem_filter]
  constructor
  · rintro ⟨⟨i, queue, attached⟩, ⟨mem, read⟩, rfl⟩
    obtain rfl : attached = true := read
    exact ⟨queue, mem⟩
  · rintro ⟨queue, mem⟩
    exact ⟨_, ⟨mem, rfl⟩, rfl⟩

theorem Proper.find?_feed (h : b.Proper) (mem : ⟨id, queue, true⟩ ∈ b.feeds) :
    b.feeds.find? (fun f => f.id = id ∧ f.attached) = some ⟨id, queue, true⟩ := by
  cases found : b.feeds.find? fun f => f.id = id ∧ f.attached with
  | none => simpa using List.find?_eq_none.1 found _ mem
  | some g =>
    have own : g.id = id ∧ g.attached = true := by simpa using List.find?_some found
    rw [h.feed_eq (List.mem_of_find?_eq_some found) mem own.1]

/-- A feed that is read hands on what it holds, oldest first. -/
theorem Proper.receiveFeed (h : b.Proper) (mem : ⟨id, queue, true⟩ ∈ b.feeds) :
    (b.receiveFeed id).1 = queue.head?.elim .empty .event ∧
      ⟨id, queue.tail, true⟩ ∈ (b.receiveFeed id).2.feeds := by
  have found := h.find?_feed mem
  cases queue with
  | nil =>
    simp only [EventBus.receiveFeed, found, h.going]
    exact ⟨rfl, mem⟩
  | cons e rest =>
    simp only [EventBus.receiveFeed, found]
    exact ⟨rfl, List.mem_map.2 ⟨_, mem, by simp⟩⟩

theorem receiveFeed_of_not_live (gone : id ∉ b.live) : b.receiveFeed id = (.detached, b) := by
  have none : b.feeds.find? (fun f => f.id = id ∧ f.attached) = none := by
    refine List.find?_eq_none.2 fun f mem found => gone (mem_live.2 ⟨f.queue, ?_⟩)
    obtain ⟨rfl, read⟩ := of_decide_eq_true found
    rw [← read]
    exact mem
  simp only [EventBus.receiveFeed, none]

/-- Who does not read any more cannot go once again. -/
theorem detach_of_not_live (gone : id ∉ b.live) : b.detach id = b := by
  have same : (b.feeds.map fun f => if f.id = id then { f with attached := false } else f) =
      b.feeds := by
    refine (List.map_congr_left fun f mem => ?_).trans (List.map_id _)
    split
    · next own =>
      cases read : f.attached with
      | false => rw [← read]; rfl
      | true =>
        refine absurd (mem_live.2 ⟨f.queue, ?_⟩) gone
        rw [← own, ← read]
        exact mem
    · rfl
  rw [detach, same]

/-- As long as the bus is in use, a bridge does nothing but read its feed, and it makes the call for
what it finds there. -/
theorem Proper.pass (h : b.Proper) (id : Nat) :
    ((⟨id, true⟩ : Bridge).step b).2.2 = (b.receiveFeed id).2 ∧
      ((⟨id, true⟩ : Bridge).step b).1 = (b.receiveFeed id).1.event?.bind Event.call? := by
  by_cases reads : id ∈ b.live
  · obtain ⟨queue, mem⟩ := mem_live.1 reads
    obtain ⟨received, -⟩ := h.receiveFeed mem
    have eq : b.receiveFeed id = (queue.head?.elim .empty .event, (b.receiveFeed id).2) :=
      Prod.ext received rfl
    unfold Bridge.step
    rw [eq]
    cases queue <;> exact ⟨rfl, rfl⟩
  · simp only [Bridge.step, receiveFeed_of_not_live reads, detach_of_not_live reads]
    exact ⟨trivial, rfl⟩

theorem Proper.receiveFeed_move (h : b.Proper) (i : Nat) : (b.receiveFeed i).2.Proper := by
  obtain ⟨feeds, eq, same⟩ := b.receiveFeed_eq i
  have ids : feeds.map (·.id) = b.feeds.map (·.id) := by
    have read := congrArg (List.map Prod.fst) same
    simpa only [List.map_map, Function.comp_def] using read
  rw [eq]
  refine ⟨h.going, ?_, h.subscribers⟩
  show Rising (feeds.map (·.id)) b.feedCount
  rw [ids]
  exact h.feeds

theorem Proper.move (h : b.Proper) (m : BusMove) : (b.move m).Proper := by
  cases m with
  | publish e =>
    refine ⟨?_, ?_, ?_⟩
    all_goals
      cases heard : e.forListener with
      | true => ?_
      | false => ?_
    all_goals simp only [EventBus.move, publish, heard]
    · exact h.going
    · exact h.going
    · refine h.feeds.sublist ?_
      simp only [if_true, feed, List.map_map, Function.comp_def]
      exact List.filter_sublist.map _
    · exact h.feeds
    · exact h.subscribers
    · exact h.subscribers
  | subscribe =>
    refine ⟨h.going, h.feeds, ?_⟩
    simp only [EventBus.move, subscribe, List.map_append]
    exact h.subscribers.concat
  | unsubscribe i => exact ⟨h.going, h.feeds, h.subscribers.sublist (List.filter_sublist.map _)⟩
  | receive i =>
    obtain ⟨subscribers, eq, same⟩ := b.receive_eq i
    rw [EventBus.move, eq]
    refine ⟨h.going, h.feeds, ?_⟩
    show Rising (subscribers.map (·.id)) b.subscriberCount
    rw [same]
    exact h.subscribers
  | attach =>
    refine ⟨h.going, ?_, h.subscribers⟩
    simp only [EventBus.move, attach, List.map_append]
    exact h.feeds.concat
  | detach i =>
    have ids : (b.detach i).feeds.map (·.id) = b.feeds.map (·.id) := by
      simp only [detach, List.map_map]
      refine List.map_congr_left fun f _ => ?_
      simp only [Function.comp]
      split <;> rfl
    refine ⟨h.going, ?_, h.subscribers⟩
    show Rising ((b.detach i).feeds.map (·.id)) b.feedCount
    rw [ids]
    exact h.feeds
  | receiveFeed i => exact h.receiveFeed_move i
  | pass i =>
    rw [EventBus.move, (h.pass i).1]
    exact h.receiveFeed_move i

theorem Proper.run (h : b.Proper) (moves : List BusMove) : (b.run moves).Proper := by
  induction moves generalizing b with
  | nil => exact h
  | cons m rest ih => exact ih (h.move m)

/-! ## What a feed hands on -/

/-- Whoever else reads leaves a feed as it is. -/
theorem mem_receiveFeed_of_ne {f : Feed} (mem : f ∈ b.feeds) {i : Nat} (other : f.id ≠ i) :
    f ∈ (b.receiveFeed i).2.feeds := by
  unfold receiveFeed
  split
  · exact mem
  · split
    · exact List.mem_map.2 ⟨f, mem, if_neg other⟩
    · exact mem

/-- A move of somebody else adds to a feed the event that is published, if it is for listeners; a
move of the reader takes the oldest event from it. -/
theorem Proper.hands_on (h : b.Proper) (mem : ⟨id, queue, true⟩ ∈ b.feeds) {m : BusMove}
    (stays : m ≠ .detach id) :
    ∃ left, ⟨id, left, true⟩ ∈ (b.move m).feeds ∧
      (b.takes? id m).toList ++ left = queue ++ m.heard?.toList := by
  have read (i : Nat) : ∃ left, ⟨id, left, true⟩ ∈ (b.receiveFeed i).2.feeds ∧
      (if i = id then (b.receiveFeed id).1.event? else none).toList ++ left = queue := by
    by_cases own : i = id
    · subst own
      obtain ⟨received, left⟩ := h.receiveFeed mem
      refine ⟨queue.tail, left, ?_⟩
      rw [if_pos rfl, received]
      cases queue <;> rfl
    · rw [if_neg own]
      exact ⟨queue, mem_receiveFeed_of_ne mem (Ne.symm own), rfl⟩
  cases m with
  | publish e =>
    cases heard : e.forListener with
    | true =>
      refine ⟨queue ++ [e], ?_, by simp [takes?, BusMove.heard?, heard]⟩
      rw [EventBus.move, feeds_publish b heard]
      exact List.mem_map.2 ⟨_, List.mem_filter.2 ⟨mem, rfl⟩, rfl⟩
    | false =>
      refine ⟨queue, ?_, by simp [takes?, BusMove.heard?, heard]⟩
      rw [EventBus.move, feeds_publish_other b heard]
      exact mem
  | subscribe | unsubscribe => exact ⟨queue, mem, (List.append_nil _).symm⟩
  | receive i =>
    obtain ⟨subscribers, eq, -⟩ := b.receive_eq i
    refine ⟨queue, ?_, (List.append_nil _).symm⟩
    rw [EventBus.move, eq]
    exact mem
  | attach => exact ⟨queue, List.mem_append_left _ mem, (List.append_nil _).symm⟩
  | detach i =>
    have other : id ≠ i := fun same => stays (congrArg BusMove.detach same.symm)
    exact ⟨queue, List.mem_map.2 ⟨_, mem, if_neg other⟩, (List.append_nil _).symm⟩
  | receiveFeed i =>
    obtain ⟨left, mem, taken⟩ := read i
    exact ⟨left, mem, taken.trans (List.append_nil _).symm⟩
  | pass i =>
    obtain ⟨left, mem, taken⟩ := read i
    rw [EventBus.move, (h.pass i).1]
    exact ⟨left, mem, taken.trans (List.append_nil _).symm⟩

/-- As long as a feed is read, what was taken from it and what it holds is what it held, followed by
all that was published for listeners. -/
theorem Proper.mem_feeds_run (h : b.Proper) (mem : ⟨id, queue, true⟩ ∈ b.feeds)
    {moves : List BusMove} (stays : .detach id ∉ moves) :
    ∃ left, ⟨id, left, true⟩ ∈ (b.run moves).feeds ∧
      b.along (takes? id) moves ++ left = queue ++ moves.filterMap BusMove.heard? := by
  induction moves generalizing b queue with
  | nil => exact ⟨queue, mem, by simp [along]⟩
  | cons m rest ih =>
    simp only [List.mem_cons, not_or] at stays
    obtain ⟨between, mem, first⟩ := h.hands_on mem (Ne.symm stays.1)
    obtain ⟨left, mem, later⟩ := ih (h.move m) mem stays.2
    refine ⟨left, mem, ?_⟩
    rw [along, List.append_assoc, later, ← List.append_assoc, first]
    cases heard : m.heard? <;> simp [heard]

/-- A reader came along some moves, was given the number `k`, and did not go. -/
def Stays (comes : BusMove) (number : EventBus → Nat) (goes : Nat → BusMove) (b : EventBus)
    (moves : List BusMove) (k : Nat) : Prop :=
  ∃ before after, moves = before ++ comes :: after ∧ number (b.run before) = k ∧ goes k ∉ after

/-- There is a call for each event that is for listeners. -/
theorem map_some_call? {events : List Event} (heard : ∀ e ∈ events, e.forListener = true) :
    (events.filterMap Event.call?).map some = events.map Event.call? := by
  induction events with
  | nil => rfl
  | cons e rest ih =>
    obtain ⟨call, called⟩ := Option.isSome_iff_exists.1 (e.call?_isSome.trans (heard e (by simp)))
    rw [List.filterMap_cons_some called, List.map_cons, List.map_cons, called,
      ih fun e mem => heard e (List.mem_cons_of_mem _ mem)]

end EventBus

end Viewfinder
