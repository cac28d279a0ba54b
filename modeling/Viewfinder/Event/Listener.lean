import Viewfinder.Event.Bus

/-!
# Listeners

A bridge reads one feed and calls its listener for each event, in the order of the feed, until the
bus is closed and the feed is empty or the bridge is taken down.
-/

namespace Viewfinder

inductive ListenerCall where
  | image (bytes : Array UInt8)
  | failed (reason : FailureReason)
  | ready (facing : Facing) (preview : Size)
deriving DecidableEq, Repr

def Event.call? : Event → Option ListenerCall
  | .imageCaptured image => some (.image image.still.bytes)
  | .failed _ reason => some (.failed reason)
  | .ready facing preview _ => some (.ready facing preview)
  | _ => none

theorem Event.call?_isSome (e : Event) : e.call?.isSome = e.forListener := by cases e <;> rfl

structure Bridge where
  /-- The feed that is read; it also names the bridge. -/
  feed : Nat
  running : Bool := true
deriving DecidableEq, Repr

namespace Bridge

/-- Whether the bridge has something to do: an event to pass on, or to see that none will come. -/
def enabled (br : Bridge) (b : EventBus) : Bool :=
  br.running && match b.feeds.find? fun f => f.id = br.feed ∧ f.attached with
    | some f => !f.queue.isEmpty || b.closed
    | none => b.closed

/-- Pass one event on. -/
def step (br : Bridge) (b : EventBus) : Option ListenerCall × Bridge × EventBus :=
  match b.receiveFeed br.feed with
  | (.event e, b) => (e.call?, br, b)
  | (.closed, b) | (.detached, b) => (none, { br with running := false }, b.detach br.feed)
  | (_, b) => (none, br, b)

/-- A bridge publishes nothing. -/
theorem published_step (br : Bridge) (b : EventBus) :
    (br.step b).2.2.published = b.published := by
  have received := b.published_receiveFeed br.feed
  unfold step
  split <;> next eq => rw [eq] at received; exact received

/-- Take the bridge down; what its feed still holds is lost. -/
def abort (br : Bridge) (b : EventBus) : Bridge × EventBus :=
  ({ br with running := false }, b.detach br.feed)

end Bridge

end Viewfinder
