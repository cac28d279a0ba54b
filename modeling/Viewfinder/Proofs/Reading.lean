import Viewfinder.Proofs.Effort
import Viewfinder.Proofs.Listening

/-!
# What readers have before them

A subscriber reads what was published since it came, one event after the other, as long as the bus
keeps all of it. With a listener and a subscriber to follow a system, there is the more ahead of it
the more they have not read, and still every step of a task leaves less (`Followed.advance`).
-/

namespace Viewfinder

namespace EventBus

variable {b : EventBus} {id : Nat} {unread : List Event}

/-- The last of what was published is what a subscriber has still to read. -/
def Unread (b : EventBus) (id : Nat) (unread : List Event) : Prop :=
  ∃ position, b.subscribers.find? (·.id = id) = some ⟨id, position⟩ ∧
    position ≤ b.published.size ∧ b.published.toList.drop position = unread

/-- Who has just come has nothing to read. -/
theorem Proper.unread_subscribe (h : b.Proper) : b.subscribe.2.Unread b.subscriberCount [] := by
  have unknown : b.subscribers.find? (·.id = b.subscriberCount) = none :=
    List.find?_eq_none.2 fun s mem same =>
      Nat.ne_of_lt (h.subscribers.lt (List.mem_map_of_mem mem)) (of_decide_eq_true same)
  refine ⟨b.published.size, ?_, Nat.le_refl _, List.drop_length⟩
  simp [subscribe, List.find?_append, unknown]

theorem Unread.of_same {c : EventBus} (h : b.Unread id unread)
    (subscribers : c.subscribers = b.subscribers) (published : c.published = b.published) :
    c.Unread id unread := by
  rw [Unread, subscribers, published]
  exact h

theorem Unread.publish (h : b.Unread id unread) (e : Event) :
    (b.publish e).2.Unread id (unread ++ [e]) := by
  obtain ⟨position, found, le, rfl⟩ := h
  refine ⟨position, ?_, ?_, ?_⟩
  · have same : (b.publish e).2.subscribers = b.subscribers := by
      unfold EventBus.publish
      split <;> rfl
    rw [same]
    exact found
  · rw [published_publish, Array.size_push]
    omega
  · rw [published_publish, Array.toList_push]
    exact List.drop_append_of_le_length le

theorem Unread.run_publish (h : b.Unread id unread) (events : List Event) :
    (b.run (events.map .publish)).Unread id (unread ++ events) := by
  induction events generalizing b unread with
  | nil => rwa [List.append_nil]
  | cons e rest ih =>
    have whole := ih (h.publish e)
    rwa [List.append_assoc] at whole

theorem capacity_run_publish (b : EventBus) (events : List Event) :
    (b.run (events.map .publish)).capacity = b.capacity := by
  induction events generalizing b with
  | nil => rfl
  | cons e rest ih =>
    refine (ih (b.publish e).2).trans ?_
    unfold EventBus.publish
    split <;> rfl

theorem Unread.receive_nil (h : b.Unread id []) (going : b.closed = false) :
    b.receive id = (.empty, b) := by
  obtain ⟨position, found, le, none⟩ := h
  have all : b.published.size ≤ position := by simpa using none
  have last : ¬position < b.published.size - b.capacity := by omega
  simp [receive, found, last, all, going]

/-- The oldest of what is still to be read is read next, as long as the bus keeps it. -/
theorem Unread.receive_cons {e : Event} {rest : List Event} (h : b.Unread id (e :: rest))
    (kept : rest.length < b.capacity) :
    ∃ subscribers, b.receive id = (.event e, { b with subscribers := subscribers }) ∧
      { b with subscribers := subscribers }.Unread id rest := by
  obtain ⟨position, found, le, next⟩ := h
  have count : b.published.size - position = rest.length + 1 := by
    simpa using congrArg List.length next
  have recent : ¬position < b.published.size - b.capacity := by omega
  have at_ : b.published[position]? = some e := by
    rw [← Array.getElem?_toList, ← List.head?_drop, next]
    rfl
  refine ⟨b.subscribers.map fun s => if s.id = id then ⟨id, position + 1⟩ else s,
    by simp only [receive, found, if_neg recent, at_], position + 1, ?_, ?_, ?_⟩
  · have same : ((fun s : Subscriber => decide (s.id = id)) ∘
        fun s => if s.id = id then ⟨id, position + 1⟩ else s) = fun s => decide (s.id = id) := by
      funext s
      by_cases own : s.id = id <;> simp [own]
    rw [List.find?_map, same, found]
    exact congrArg some (if_pos rfl)
  · show position + 1 ≤ b.published.size
    omega
  · rw [← List.drop_drop, next]
    rfl

end EventBus

/-- A bridge changes nothing but feeds. -/
theorem Bridge.step_bus (br : Bridge) (b : EventBus) :
    ∃ feeds, (br.step b).2.2 = { b with feeds := feeds } := by
  obtain ⟨feeds, read, -⟩ := b.receiveFeed_eq br.feed
  unfold step
  split <;> next made => rw [made] at read; obtain rfl := read; exact ⟨_, rfl⟩

namespace CameraSystem

section

variable {σ : Type} {s : CameraSystem σ} {id : Nat} {waiting unread : List Event}

/-- The system after some of the subscribers have read on. -/
def withSubscribers (s : CameraSystem σ) (subscribers : List Subscriber) : CameraSystem σ :=
  { s with bus := { s.bus with subscribers := subscribers } }

/-- A listener has not heard of `waiting` yet, and a subscriber has still to read `unread`. -/
structure Followed (s : CameraSystem σ) (id : Nat) (waiting unread : List Event) : Prop where
  bridged : ∃ feed, s.Bridged feed waiting
  unread : s.bus.Unread id unread

theorem Followed.going (h : s.Followed id waiting unread) : s.bus.closed = false := by
  obtain ⟨feed, bridged⟩ := h.bridged
  exact bridged.proper.going

theorem Followed.of_onlyPublishes {t : CameraSystem σ} (h : s.Followed id waiting unread)
    (only : OnlyPublishes s t) :
    ∃ fresh, t.Followed id (waiting ++ fresh.filter Event.forListener) (unread ++ fresh) ∧
      t.published = s.published ++ fresh ∧ t.bus.capacity = s.bus.capacity := by
  obtain ⟨feed, bridged⟩ := h.bridged
  obtain ⟨events, bus⟩ := only.bus
  obtain ⟨fresh, bridged', published⟩ := bridged.of_onlyPublishes only
  have same : events = fresh := by
    have whole := EventBus.published_run_publish s.bus events
    rw [← bus] at whole
    exact List.append_cancel_left (whole.symm.trans published)
  subst same
  refine ⟨events, ⟨⟨feed, bridged'⟩, ?_⟩, published, ?_⟩
  · rw [bus]
    exact h.unread.run_publish events
  · rw [bus, EventBus.capacity_run_publish]

/-- The oldest of what is unread is read, and nothing else is touched. -/
theorem Followed.read {e : Event} (h : s.Followed id waiting (e :: unread))
    (kept : unread.length < s.bus.capacity) :
    ∃ subscribers, s.bus.receive id = (.event e, { s.bus with subscribers := subscribers }) ∧
      (s.withSubscribers subscribers).Followed id waiting unread := by
  obtain ⟨feed, bridged⟩ := h.bridged
  obtain ⟨subscribers, read, unread⟩ := h.unread.receive_cons kept
  have proper := bridged.proper.move (.receive id)
  rw [EventBus.move, read] at proper
  exact ⟨subscribers, read, ⟨feed, { bridged with proper := proper }⟩, unread⟩

variable [CameraService σ]

/-- A request that leaves the readers of the bus alone publishes nothing. -/
theorem Followed.request (h : s.Followed id waiting unread) {r : Request}
    (other : r.listens = false) :
    (s.request r).Followed id waiting unread ∧ (s.request r).bus = s.bus := by
  have bus : (s.request r).bus = s.bus := by
    cases r with
    | setListener | clearListener | subscribe | drop => cases other
    | _ =>
      simp only [CameraSystem.request, start, openRequest, pause, swap, setViewport, turnDevice,
        tiltDevice, focusOn, takePicture, barrier, submit]
      repeat' (first | rfl | split)
  obtain ⟨feed, bridged⟩ := h.bridged
  obtain ⟨fresh, bridged', published⟩ :=
    bridged.of_onlyPublishes (s.onlyPublishes_request other)
  rw [CameraSystem.published, bus] at published
  obtain rfl : fresh = [] := List.append_right_eq_self.1 published.symm
  rw [List.filter_nil, List.append_nil] at bridged'
  exact ⟨⟨⟨feed, bridged'⟩, bus ▸ h.unread⟩, bus⟩

/-- Who subscribes has nothing to read yet. -/
theorem Bridged.subscribe {feed : Nat} (h : s.Bridged feed waiting) :
    (s.request .subscribe).Followed s.bus.subscriberCount waiting [] :=
  ⟨⟨feed, { h with proper := h.proper.move .subscribe }⟩, h.proper.unread_subscribe⟩

/-- A bridge that makes a step takes from what waits, and a subscriber finds what the others
publish. -/
theorem Followed.step (h : s.Followed id waiting unread) {task : Task}
    (ready : s.ready task = true) :
    ∃ fresh waiting', (s.step task).Followed id waiting' (unread ++ fresh) ∧
      (s.step task).published = s.published ++ fresh ∧
      (s.step task).bus.capacity = s.bus.capacity ∧
      ((∃ feed b, task = .bridge feed ∧ s.step task = s.bridgeStep b ∧ fresh = [] ∧
          waiting.length = waiting'.length + 1) ∨
        (∀ feed, task ≠ .bridge feed) ∧ waiting' = waiting ++ fresh.filter Event.forListener) := by
  by_cases bridge : ∃ feed, task = .bridge feed
  · obtain ⟨feed, rfl⟩ := bridge
    obtain ⟨own, bridged⟩ := h.bridged
    obtain ⟨b, found, going⟩ := Option.any_eq_true _ _ |>.1 ready
    obtain ⟨e, rest, rfl, bridged', -⟩ := bridged.bridgeStep found going
    have eq : s.step (.bridge feed) = s.bridgeStep b := by
      simp only [CameraSystem.step, found]
      rfl
    obtain ⟨feeds, bus⟩ := b.step_bus s.bus
    have bus : (s.bridgeStep b).bus = { s.bus with feeds := feeds } := bus
    refine ⟨[], rest, ?_, ?_, ?_, .inl ⟨feed, b, rfl, eq, rfl, rfl⟩⟩
    all_goals rw [eq]
    · refine ⟨⟨own, bridged'⟩, ?_⟩
      rw [List.append_nil, bus]
      exact h.unread.of_same rfl rfl
    · rw [List.append_nil]
      exact (s.bridgeStep_sameDemand b).2
    · rw [bus]
  · have other : ∀ feed, task ≠ .bridge feed := fun feed eq => bridge ⟨feed, eq⟩
    obtain ⟨fresh, followed, published, capacity⟩ :=
      h.of_onlyPublishes (s.onlyPublishes_step other)
    exact ⟨fresh, _, followed, published, capacity, .inr ⟨other, rfl⟩⟩

end

variable {s : CameraSystem (Simulator Ticket)} {id : Nat} {waiting unread : List Event}

/-- What is ahead of a system and of those who follow it. Frames on their way count once and all
else twice. -/
def ahead (s : CameraSystem (Simulator Ticket)) (waiting unread : List Event) : Nat :=
  2 * (s.effort + waiting.length + unread.length) + s.framesAhead

/-- Every step of a task leaves less ahead, and what it has the subscriber read it has paid for. -/
theorem Followed.advance (h : s.Followed id waiting unread) (sound : s.Sound)
    (inUse : s.inUse = true) {task : Task} (ready : s.ready task = true) :
    ∃ fresh waiting', (s.step task).Followed id waiting' (unread ++ fresh) ∧
      (s.step task).published = s.published ++ fresh ∧
      (s.step task).bus.capacity = s.bus.capacity ∧
      (s.step task).ahead waiting' (unread ++ fresh) < s.ahead waiting unread ∧
      (s.step task).effort + 2 * (unread ++ fresh).length ≤ s.effort + 2 * unread.length := by
  obtain ⟨fresh, waiting', followed, published, capacity, cases_⟩ := h.step ready
  refine ⟨fresh, waiting', followed, published, capacity, ?_⟩
  rcases cases_ with ⟨feed, b, rfl, eq, rfl, count⟩ | ⟨other, rfl⟩
  · have effort : (s.bridgeStep b).effort = s.effort := rfl
    have frames : (s.bridgeStep b).framesAhead = s.framesAhead := rfl
    rw [eq, List.append_nil, ahead, ahead, effort, frames]
    omega
  · have nearer := nearer_step sound inUse other ready
    have heard : (fresh.filter Event.forListener).length ≤ fresh.length :=
      List.length_filter_le _ _
    have less := nearer.less
    have load := nearer.load
    simp only [CameraSystem.load, published, List.length_append] at less load
    simp only [ahead, List.length_append]
    omega

end CameraSystem

end Viewfinder
