import Viewfinder.Proofs.Secured

/-!
# The lifecycle of the camera

`Lifecycle` is what is left of a camera system when only opening and closing is looked at: the phase
of the executor, the orders that wait, what the users asked for last, what was published of it, and
the devices opened so far. `Lifecycle.Step` is everything that can happen to it.
-/

namespace Viewfinder

/-- How far the executor is with opening and closing. -/
inductive Phase where
  | closed
  | opening (facing : Facing) (request : Nat)
  /-- The device is open already and is being configured. -/
  | configuring (facing : Facing) (request : Nat)
  | opened (facing : Facing)
  | closing (facing : Facing)
deriving DecidableEq, Repr

/-- The state of the handle in a phase. -/
def Phase.state : Phase → HandleState
  | closed => .closed
  | opening .. | configuring .. => .opening
  | opened _ => .opened
  | closing _ => .closing

/-- A command that opens or closes. -/
inductive Order where
  | opens (facing : Facing) (request : Nat)
  | closes
deriving DecidableEq, Repr

def Command.order? : Command → Option Order
  | .openCamera facing request => some (.opens facing request)
  | .closeCamera => some .closes
  | _ => none

def Stage.phase (slot : Option OpenCamera) : Stage → Phase
  | .opening facing request => .opening facing request
  | .native _ (.install facing request _ _) => .configuring facing request
  | .native _ (.abandon facing request _) => .configuring facing request
  | .native _ (.forget facing _) => .closing facing
  | _ => slot.elim .closed fun camera => .opened camera.sensor.facing

/-- Whether an event tells of opening and closing. -/
def Event.ofLifecycle : Event → Bool
  | stateChanged .. | failed .. => true
  | _ => false

structure Lifecycle where
  cameras : List CameraSpec
  phase : Phase
  /-- Orders that wait in the queue. -/
  orders : List Order
  requests : Requests
  inUse : Bool
  /-- Everything published of it. -/
  journal : List Event
  /-- Facings of the devices opened. -/
  history : List Facing

namespace Lifecycle

/-- No camera of a service has the facing. -/
def Missing (cameras : List CameraSpec) (facing : Facing) : Prop :=
  ∀ spec ∈ cameras, spec.sensor.facing ≠ facing

/-- What can happen, with the facing that is asked for if a request to open is accepted. -/
inductive Step : Lifecycle → Option Facing → Lifecycle → Prop
  | quiet (l : Lifecycle) : Step l none l
  | start (l : Lifecycle) (facing : Facing) (inUse : l.inUse = true)
      (stopped : l.requests.started = false) :
      Step l (some facing) { l with
        requests := ⟨true, facing, l.requests.newest + 1⟩
        orders := l.orders ++ [.opens facing (l.requests.newest + 1)] }
  | pause (l : Lifecycle) (inUse : l.inUse = true) (started : l.requests.started = true) :
      Step l none { l with
        requests := { l.requests with started := false }
        orders := l.orders ++ [.closes] }
  | swap (l : Lifecycle) (inUse : l.inUse = true) :
      Step l (some l.requests.facing.toggled) { l with
        requests := ⟨true, l.requests.facing.toggled, l.requests.newest + 1⟩
        orders := l.orders ++ (if l.requests.started then [.closes] else []) ++
          [.opens l.requests.facing.toggled (l.requests.newest + 1)] }
  | drop (l : Lifecycle) : Step l none { l with inUse := false }
  | takeOpen (l : Lifecycle) (facing : Facing) (request : Nat) (rest : List Order)
      (phase : l.phase = .closed) (orders : l.orders = .opens facing request :: rest) :
      Step l none { l with
        phase := .opening facing request
        orders := rest
        journal := l.journal ++ [.stateChanged .closed .opening facing] }
  | skipOpen (l : Lifecycle) (open_ facing : Facing) (request : Nat) (rest : List Order)
      (phase : l.phase = .opened open_) (orders : l.orders = .opens facing request :: rest) :
      Step l none { l with orders := rest }
  | takeClose (l : Lifecycle) (facing : Facing) (rest : List Order)
      (phase : l.phase = .opened facing) (orders : l.orders = .closes :: rest) :
      Step l none { l with
        phase := .closing facing
        orders := rest
        journal := l.journal ++ [.stateChanged .opened .closing facing] }
  | skipClose (l : Lifecycle) (rest : List Order) (phase : l.phase = .closed)
      (orders : l.orders = .closes :: rest) : Step l none { l with orders := rest }
  | finish (l : Lifecycle) (facing : Facing) (inUse : l.inUse = false)
      (phase : l.phase = .opened facing) (orders : l.orders = []) :
      Step l none { l with
        phase := .closing facing
        journal := l.journal ++ [.stateChanged .opened .closing facing] }
  | fail (l : Lifecycle) (facing : Facing) (request : Nat) (reason : FailureReason)
      (phase : l.phase = .opening facing request)
      (why : reason = .noCamera ↔ Missing l.cameras facing) :
      Step l none { l with
        phase := .closed
        requests := { l.requests with
          started := l.requests.started && l.requests.newest != request }
        journal := l.journal ++ [.stateChanged .opening .closed facing, .failed facing reason] }
  | acquire (l : Lifecycle) (facing : Facing) (request : Nat)
      (phase : l.phase = .opening facing request) :
      Step l none { l with
        phase := .configuring facing request
        history := l.history ++ [facing] }
  | install (l : Lifecycle) (facing : Facing) (request : Nat)
      (phase : l.phase = .configuring facing request) :
      Step l none { l with
        phase := .opened facing
        journal := l.journal ++ [.stateChanged .opening .opened facing] }
  | forget (l : Lifecycle) (facing : Facing) (phase : l.phase = .closing facing) :
      Step l none { l with
        phase := .closed
        journal := l.journal ++ [.stateChanged .closing .closed facing] }

theorem Step.cameras {l l' : Lifecycle} {accepted : Option Facing} (step : l.Step accepted l') :
    l'.cameras = l.cameras := by
  cases step <;> rfl

end Lifecycle

namespace Simulator

variable {τ : Type} {s : Simulator τ}

theorem missing_iff {facing : Facing} :
    Lifecycle.Missing s.cameras facing ↔ s.camera? facing = none :=
  camera?_eq_none_iff.symm

end Simulator

namespace CameraSystem

variable {s t : CameraSystem (Simulator Ticket)} {held : Option Nat}

/-- What was published of opening and closing, oldest first. -/
def journal {σ : Type} (s : CameraSystem σ) : List Event :=
  s.bus.published.toList.filter Event.ofLifecycle

def lifecycle (s : CameraSystem (Simulator Ticket)) : Lifecycle where
  cameras := s.service.cameras
  phase := s.executor.stage.phase s.slot
  orders := s.queue.filterMap Command.order?
  requests := s.requests
  inUse := s.inUse
  journal := s.journal
  history := s.service.history

/-- The facing of the request to open that a move makes, if it is accepted. -/
def accepts? (s : CameraSystem (Simulator Ticket)) : Move → Option Facing
  | .request (.start facing) => if s.requests.started then none else some facing
  | .request .swap => if s.service.cameras.length < 2 then none else some s.requests.facing.toggled
  | _ => none

theorem Secured.state_eq (h : s.Secured held) : s.state = s.lifecycle.phase.state := by
  have custody := h.custody
  unfold lifecycle
  cases stage : s.executor.stage with
  | idle =>
    rcases h.between (.inl stage) with ⟨slot, state, -⟩ | ⟨camera, slot, state, -⟩ <;>
      rw [state, slot] <;> rfl
  | opening facing request => exact (h.of_opening stage).2.1
  | native routine next =>
    rw [stage] at custody
    cases next with
    | install | forget => exact custody.2.1
    | abandon => exact custody.elim
    | resize | turn | focus =>
      obtain ⟨camera, slot, state, -⟩ := custody
      rw [state, slot]
      rfl
  | stopped =>
    rw [stage] at custody
    rw [custody.1, custody.2.1]
    rfl
  | crashed =>
    rw [stage] at custody
    obtain ⟨camera, slot, state, -⟩ := custody
    rw [state, slot]
    rfl

@[simp] theorem journal_publish {σ : Type} (s : CameraSystem σ) (e : Event) :
    (s.publish e).journal = s.journal ++ [e].filter Event.ofLifecycle := by
  have pushed : (s.publish e).bus.published = s.bus.published.push e := s.bus.published_publish e
  simp [journal, pushed, List.filter_append]

/-- Systems that agree on all that concerns opening and closing. -/
theorem lifecycle_eq (service : t.service.past = s.service.past) (slot : t.slot = s.slot)
    (stage : t.executor.stage.phase s.slot = s.executor.stage.phase s.slot)
    (orders : t.queue.filterMap Command.order? = s.queue.filterMap Command.order?)
    (requests : t.requests = s.requests) (inUse : t.inUse = s.inUse)
    (journal : t.journal = s.journal) : t.lifecycle = s.lifecycle := by
  obtain ⟨cameras, history⟩ := Prod.ext_iff.1 service
  simp only [Simulator.past] at cameras history
  simp [lifecycle, cameras, history, slot, stage, orders, requests, inUse, journal]

theorem lifecycle_submit (s : CameraSystem (Simulator Ticket)) (c : Command) (h : c.order? = none) :
    (s.submit c).lifecycle = s.lifecycle := by
  simp [lifecycle, submit, journal, h]

theorem lifecycle_clearListener (s : CameraSystem (Simulator Ticket)) :
    s.clearListener.lifecycle = s.lifecycle := by
  unfold clearListener
  split <;> rfl

end CameraSystem

end Viewfinder
