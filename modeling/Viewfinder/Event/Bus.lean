import Viewfinder.Event.Basic

/-!
# The event bus

Two kinds of readers take events from a bus. A subscriber reads everything published since it
subscribed, but only the newest `capacity` events are kept for it: one that falls behind is told how
many it lost and goes on with the oldest that is kept. A feed holds the events for listeners and
loses none; the feeds that nobody reads any more are given up when the next such event is published.
-/

namespace Viewfinder

structure Subscriber where
  id : Nat
  /-- Number of events published before the one that is read next. -/
  position : Nat
deriving DecidableEq, Repr

structure Feed where
  id : Nat
  queue : List Event
  /-- Whether somebody still reads the feed. -/
  attached : Bool
deriving DecidableEq, Repr

structure EventBus where
  capacity : Nat
  /-- All events published, oldest first. -/
  published : Array Event := #[]
  subscribers : List Subscriber := []
  feeds : List Feed := []
  /-- Numbers given out so far to subscribers and to feeds. -/
  subscriberCount : Nat := 0
  feedCount : Nat := 0
  closed : Bool := false
deriving Repr

/-- What a reader finds. -/
inductive Received where
  | event (e : Event)
  | lagged (lost : Nat)
  | empty
  | closed
  | detached
deriving DecidableEq, Repr

/-- The bus found no subscriber to hand an event to. -/
inductive PublishError where
  | noSubscriber
deriving DecidableEq, Repr

namespace EventBus

/-- The least power of two that is at least `n`. -/
def powerOfTwoAbove (n : Nat) : Nat := if n ≤ 1 then 1 else 1 <<< ((n - 1).log2 + 1)

def ofCapacity (capacity : Nat) : EventBus := { capacity := powerOfTwoAbove capacity }

def defaultCapacity : Nat := 64

def subscribe (b : EventBus) : Nat × EventBus :=
  (b.subscriberCount,
    { b with
      subscribers := b.subscribers ++ [⟨b.subscriberCount, b.published.size⟩]
      subscriberCount := b.subscriberCount + 1 })

def attach (b : EventBus) : Nat × EventBus :=
  (b.feedCount,
    { b with
      feeds := b.feeds ++ [⟨b.feedCount, [], true⟩]
      feedCount := b.feedCount + 1 })

def unsubscribe (b : EventBus) (id : Nat) : EventBus :=
  { b with subscribers := b.subscribers.filter (·.id ≠ id) }

def detach (b : EventBus) (id : Nat) : EventBus :=
  { b with feeds := b.feeds.map fun f => if f.id = id then { f with attached := false } else f }

/-- Nothing more will be published. -/
def close (b : EventBus) : EventBus := { b with closed := true }

/-- The event goes to the feeds that are read; the others are given up. -/
def feed (b : EventBus) (e : Event) : EventBus :=
  { b with
    feeds := (b.feeds.filter (·.attached)).map fun f => { f with queue := f.queue ++ [e] } }

/-- Hand the newest event to the subscribers. -/
def broadcast (b : EventBus) : Except PublishError Nat :=
  if b.subscribers.isEmpty then .error .noSubscriber else .ok b.subscribers.length

/-- The number of subscribers that the event was handed to, and the bus afterwards. -/
def publish (b : EventBus) (e : Event) : Except PublishError Nat × EventBus :=
  let fed := if e.forListener then b.feed e else b
  let after := { fed with published := fed.published.push e }
  (if b.subscribers.length = 0 then .ok 0 else after.broadcast, after)

theorem published_publish (b : EventBus) (e : Event) :
    (b.publish e).2.published = b.published.push e := by
  unfold publish
  split <;> rfl

def receive (b : EventBus) (id : Nat) : Received × EventBus :=
  match b.subscribers.find? (·.id = id) with
  | none => (.detached, b)
  | some s =>
    let oldest := b.published.size - b.capacity
    let move (position : Nat) : EventBus :=
      { b with subscribers := b.subscribers.map fun t => if t.id = id then ⟨id, position⟩ else t }
    if s.position < oldest then (.lagged (oldest - s.position), move oldest)
    else
      match b.published[s.position]? with
      | some e => (.event e, move (s.position + 1))
      | none => (if b.closed then .closed else .empty, b)

def receiveFeed (b : EventBus) (id : Nat) : Received × EventBus :=
  match b.feeds.find? fun f => f.id = id ∧ f.attached with
  | none => (.detached, b)
  | some f =>
    match f.queue with
    | e :: rest =>
      (.event e, { b with
        feeds := b.feeds.map fun g => if g.id = id then { g with queue := rest } else g })
    | [] => (if b.closed then .closed else .empty, b)

theorem published_receiveFeed (b : EventBus) (id : Nat) :
    (b.receiveFeed id).2.published = b.published := by
  unfold receiveFeed
  repeat' (first | rfl | split)

/-- Everything that a subscriber finds until nothing is left. -/
def drain (b : EventBus) (id : Nat) : List Received × EventBus :=
  go (b.published.size + 1) b
where
  go : Nat → EventBus → List Received × EventBus
    | 0, b => ([], b)
    | fuel + 1, b =>
      match b.receive id with
      | (.event e, b) => let (rest, b) := go fuel b; (.event e :: rest, b)
      | (.lagged n, b) => let (rest, b) := go fuel b; (.lagged n :: rest, b)
      | (_, b) => ([], b)

end EventBus

end Viewfinder
