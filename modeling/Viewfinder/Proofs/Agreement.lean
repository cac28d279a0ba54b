import Mathlib.Data.List.Chain
import Viewfinder.Proofs.LifecycleSteps

/-!
# Requests and hardware agree

The phase of the executor and the orders that wait lead from one camera to the next, with none in
between, and end at what the users asked for last; the requests to open are answered in the order of
their numbers. So once no order is left, the camera that is open is the one that is wanted.
-/

namespace Viewfinder

/-- The camera that is open when the phase is through, if nothing fails. -/
def Phase.target : Phase → Option Facing
  | .closed | .closing _ => none
  | .opening facing _ | .configuring facing _ | .opened facing => some facing

/-- The request to open that is being answered. -/
def Phase.request? : Phase → Option Nat
  | .opening _ request | .configuring _ request => some request
  | _ => none

def Order.target : Order → Option Facing
  | .opens facing _ => some facing
  | .closes => none

def Order.request? : Order → Option Nat
  | .opens _ request => some request
  | .closes => none

/-- The camera that the users want. -/
def Requests.target (r : Requests) : Option Facing := if r.started then some r.facing else none

/-- Whether the executor is opening or closing. -/
def Stage.handles : Stage → Bool
  | .opening .. | .native _ (.install ..) | .native _ (.abandon ..) | .native _ (.forget ..) => true
  | _ => false

namespace Lifecycle

/-- Where the phase and each order after it lead. -/
def course (l : Lifecycle) : List (Option Facing) := l.phase.target :: l.orders.map Order.target

/-- Requests to open that are not answered yet, oldest first. -/
def pending (l : Lifecycle) : List Nat :=
  l.phase.request?.toList ++ l.orders.filterMap Order.request?

/-- A camera is opened only after another was closed. -/
def Apart (a b : Option Facing) : Prop := a = none ∨ b = none

structure Agrees (l : Lifecycle) : Prop where
  apart : l.course.IsChain Apart
  leads : l.inUse = true → l.course.getLast? = some l.requests.target
  numbers : ∃ answered, List.range' 1 answered ++ l.pending = List.range' 1 l.requests.newest

/-- The oldest request that is not answered is the next in number, and the others follow. -/
theorem next_request {answered newest request : Nat} {later : List Nat}
    (h : List.range' 1 answered ++ request :: later = List.range' 1 newest) :
    request = answered + 1 ∧ later = List.range' (request + 1) (newest - request) := by
  have length : newest = answered + (later.length + 1) := by
    simpa using (congrArg List.length h).symm
  rw [length, ← List.range'_append_1] at h
  have split := List.append_cancel_left h
  rw [List.range'_succ, List.cons.injEq] at split
  obtain ⟨rfl, eq⟩ := split
  refine ⟨by omega, ?_⟩
  rw [eq]
  congr 1
  omega

variable {l : Lifecycle}

/-- What is open is closed before anything else is opened. -/
theorem Agrees.target_of_opens (h : l.Agrees) {facing : Facing} {request : Nat} {rest : List Order}
    (orders : l.orders = .opens facing request :: rest) : l.phase.target = none := by
  have apart := h.apart
  rw [course, orders, List.map_cons, List.isChain_cons_cons] at apart
  rcases apart.1 with closed | none
  · exact closed
  · cases none

/-- The oldest request that is not answered is the newest of all if no other waits. -/
theorem Agrees.eq_newest_iff (h : l.Agrees) {request : Nat} {later : List Nat}
    (pending : l.pending = request :: later) : request = l.requests.newest ↔ later = [] := by
  obtain ⟨answered, numbers⟩ := h.numbers
  rw [pending] at numbers
  obtain ⟨rfl, eq⟩ := next_request numbers
  have length : l.requests.newest = answered + (later.length + 1) := by
    simpa using (congrArg List.length numbers).symm
  rw [← List.length_eq_zero_iff]
  omega

/-- The request that was being answered is answered now. -/
theorem Agrees.answered (h : l.Agrees) {request : Nat} {later : List Nat}
    (pending : l.pending = request :: later) :
    ∃ answered, List.range' 1 answered ++ later = List.range' 1 l.requests.newest := by
  obtain ⟨answered, numbers⟩ := h.numbers
  rw [pending] at numbers
  obtain ⟨rfl, -⟩ := next_request numbers
  refine ⟨answered + 1, ?_⟩
  rw [List.range'_1_concat, ← numbers]
  simp [Nat.add_comm]

/-- A new request to open gets the next number. -/
theorem Agrees.asked (h : l.Agrees) :
    ∃ answered, List.range' 1 answered ++ (l.pending ++ [l.requests.newest + 1]) =
      List.range' 1 (l.requests.newest + 1) := by
  obtain ⟨answered, numbers⟩ := h.numbers
  exact ⟨answered, by rw [← List.append_assoc, numbers, List.range'_1_concat, Nat.add_comm 1]⟩

theorem pending_eq {request : Nat} (asked : l.phase.request? = some request) :
    l.pending = request :: l.orders.filterMap Order.request? := by
  simp [pending, asked]

theorem agrees_of_fresh (phase : l.phase = .closed) (orders : l.orders = [])
    (stopped : l.requests.started = false) (newest : l.requests.newest = 0) : l.Agrees := by
  refine ⟨?_, fun _ => ?_, 0, ?_⟩
  · simp [course, orders]
  · simp [course, phase, orders, Phase.target, Requests.target, stopped]
  · simp [pending, phase, orders, Phase.request?, newest]

/-- One order more at the end of a course. -/
theorem apart_append {course : List (Option Facing)} {a b : Option Facing}
    (apart : course.IsChain Apart) (last : course.getLast? = some a) (next : Apart a b) :
    (course ++ [b]).IsChain Apart := by
  refine List.isChain_append.2 ⟨apart, List.isChain_singleton b, ?_⟩
  simp [last, next]

theorem Agrees.start (h : l.Agrees) (inUse : l.inUse = true) (stopped : l.requests.started = false)
    (facing : Facing) : { l with
      requests := ⟨true, facing, l.requests.newest + 1⟩
      orders := l.orders ++ [Order.opens facing (l.requests.newest + 1)] }.Agrees := by
  have leads := h.leads inUse
  rw [Requests.target, stopped] at leads
  refine ⟨?_, fun _ => ?_, ?_⟩
  · simpa [course, Order.target] using apart_append h.apart leads (b := some facing) (.inl rfl)
  · simp [course, Order.target, Requests.target, List.getLast?_cons]
  · simpa [Lifecycle.pending, Order.request?] using h.asked

theorem Agrees.pause (h : l.Agrees) (inUse : l.inUse = true) : { l with
      requests := { l.requests with started := false }
      orders := l.orders ++ [Order.closes] }.Agrees := by
  refine ⟨?_, fun _ => ?_, ?_⟩
  · simpa [course, Order.target] using apart_append h.apart (h.leads inUse) (b := none) (.inr rfl)
  · simp [course, Order.target, Requests.target, List.getLast?_cons]
  · simpa [Lifecycle.pending, List.filterMap_cons, Order.request?] using h.numbers

/-- A swap closes, unless nothing is wanted open, and then asks as a start does. -/
theorem Agrees.swap (h : l.Agrees) (inUse : l.inUse = true) (facing : Facing) : { l with
      requests := ⟨true, facing, l.requests.newest + 1⟩
      orders := l.orders ++ (if l.requests.started then [Order.closes] else []) ++
        [Order.opens facing (l.requests.newest + 1)] }.Agrees := by
  cases started : l.requests.started with
  | false => simpa using h.start inUse started facing
  | true => simpa using (h.pause inUse).start inUse rfl facing

/-- An order that leads where the phase does is taken by going there. -/
theorem Agrees.take (h : l.Agrees) {o : Order} {rest : List Order} {phase : Phase}
    {journal : List Event} (orders : l.orders = o :: rest) (target : phase.target = o.target)
    (request : phase.request?.toList ++ rest.filterMap Order.request? = l.pending) :
    { l with phase := phase, orders := rest, journal := journal }.Agrees := by
  have course : l.course = l.phase.target :: phase.target :: rest.map Order.target := by
    simp [Lifecycle.course, orders, target]
  have pending :
      { l with phase := phase, orders := rest, journal := journal }.pending = l.pending :=
    request
  obtain ⟨apart, leads, numbers⟩ := h
  rw [course] at apart leads
  exact ⟨apart.tail, leads, pending.symm ▸ numbers⟩

/-- The phase goes on to where it led. -/
theorem Agrees.advance (h : l.Agrees) {phase : Phase} {journal : List Event} {history : List Facing}
    (target : phase.target = l.phase.target)
    (numbers : ∃ answered, List.range' 1 answered ++
      (phase.request?.toList ++ l.orders.filterMap Order.request?) =
        List.range' 1 l.requests.newest) :
    { l with phase := phase, journal := journal, history := history }.Agrees := by
  have course : { l with phase := phase, journal := journal, history := history }.course =
      l.course := by
    simp [Lifecycle.course, target]
  exact ⟨course ▸ h.apart, course ▸ h.leads, numbers⟩

/-- An open that fails is taken back if nothing newer was asked for; else what was asked for since
still waits. -/
theorem Agrees.fail (h : l.Agrees) {facing : Facing} {request : Nat}
    (phase : l.phase = .opening facing request) (journal : List Event) : { l with
      phase := .closed
      requests := { l.requests with
        started := l.requests.started && l.requests.newest != request }
      journal := journal }.Agrees := by
  have pending := pending_eq (l := l) (phase ▸ rfl : l.phase.request? = some request)
  have newest := h.eq_newest_iff pending
  refine ⟨?_, fun inUse => ?_, h.answered pending⟩
  · have apart := h.apart
    rw [course] at apart
    exact List.isChain_cons.2 ⟨fun _ _ => .inl rfl, apart.tail⟩
  · have leads := h.leads inUse
    simp only [course, phase, Phase.target, List.getLast?_cons, Option.some.injEq] at leads ⊢
    by_cases same : request = l.requests.newest
    · -- nothing newer was asked for, so that only closes can wait
      have closes : ∀ o ∈ l.orders, o.target = none := by
        intro o mem
        have none := List.filterMap_eq_nil_iff.1 (newest.1 same) o mem
        cases o with
        | opens => simp [Order.request?] at none
        | closes => rfl
      have last : (l.orders.map Order.target).getLast?.getD none = none := by
        cases eq : (l.orders.map Order.target).getLast? with
        | none => rfl
        | some a =>
          obtain ⟨o, mem, rfl⟩ := List.mem_map.1 (List.mem_of_getLast? eq)
          exact closes o mem
      rw [last]
      simp [same, Requests.target]
    · -- something waits, and the last of it is what is wanted
      obtain ⟨a, last⟩ : ∃ a, (l.orders.map Order.target).getLast? = some a := by
        cases eq : (l.orders.map Order.target).getLast? with
        | none => simp_all
        | some a => exact ⟨a, rfl⟩
      rw [last] at leads ⊢
      simpa [Requests.target, Ne.symm same] using leads

theorem Agrees.step (h : l.Agrees) {accepted : Option Facing} {l' : Lifecycle}
    (step : l.Step accepted l') : l'.Agrees := by
  cases step with
  | quiet => exact h
  | start facing inUse stopped => exact h.start inUse stopped facing
  | pause inUse => exact h.pause inUse
  | swap inUse => exact h.swap inUse _
  | drop => exact ⟨h.apart, fun inUse => absurd inUse (by simp), h.numbers⟩
  | takeOpen facing request rest phase orders =>
    exact h.take orders rfl (by simp [pending, phase, orders, Phase.request?, Order.request?])
  | skipOpen open_ facing request rest phase orders =>
    simpa [phase, Phase.target] using h.target_of_opens orders
  | takeClose facing rest phase orders =>
    exact h.take orders rfl
      (by simp [pending, phase, orders, Phase.request?, List.filterMap_cons, Order.request?])
  | skipClose rest phase orders =>
    exact h.take orders (phase ▸ rfl)
      (by simp [pending, orders, List.filterMap_cons, Order.request?])
  | finish facing inUse phase orders =>
    refine ⟨?_, fun used => absurd used (by simp [inUse]), ?_⟩
    · simp [course, orders]
    · simpa [pending, phase, Phase.request?] using h.numbers
  | fail facing request reason phase => exact h.fail phase _
  | acquire facing request phase =>
    refine h.advance (phase ▸ rfl) ?_
    simpa [pending, phase, Phase.request?] using h.numbers
  | install facing request phase =>
    exact h.advance (phase ▸ rfl) (h.answered (pending_eq (by rw [phase]; rfl)))
  | forget facing phase =>
    refine h.advance (phase ▸ rfl) ?_
    simpa [pending, phase, Phase.request?] using h.numbers

end Lifecycle

namespace CameraSystem

variable {s t : CameraSystem (Simulator Ticket)} {held : Option Nat}

theorem agrees_of_run? {settings : Settings} {cameras : List CameraSpec} {capacity : Nat}
    {facing : Facing} {moves : List Move}
    (run : (ofCameras settings cameras capacity facing).run? moves = some t) :
    ∃ held, t.Secured held ∧ t.lifecycle.Agrees := by
  refine run?_keeps (P := fun s => ∃ held, s.Secured held ∧ s.lifecycle.Agrees) ?_ run
    ⟨none, secured_ofCameras settings cameras capacity facing,
      Lifecycle.agrees_of_fresh rfl rfl rfl rfl⟩
  rintro s m ⟨held, secured, agrees⟩ enabled
  obtain ⟨held', secured'⟩ := secured.move enabled
  exact ⟨held', secured', agrees.step (lifecycle_move secured enabled)⟩

/-- No command to open or to close waits or is being carried out. -/
def Settled (s : CameraSystem (Simulator Ticket)) : Prop :=
  (∀ c ∈ s.queue, c.order? = none) ∧ s.executor.stage.handles = false

/-- The executor tries to open the camera, and fails. -/
def OpenFails (s : CameraSystem (Simulator Ticket)) (request : Nat) : Prop :=
  ∃ facing, s.executor.stage = .opening facing request ∧ s.executorStep.state = .closed

theorem Settled.phase (h : s.Settled) : s.lifecycle.orders = [] ∧
    s.lifecycle.phase = s.slot.elim .closed fun camera => .opened camera.sensor.facing := by
  obtain ⟨queue, stage⟩ := h
  refine ⟨List.filterMap_eq_nil_iff.2 queue, ?_⟩
  simp only [lifecycle, Stage.phase]
  split <;> simp_all [Stage.handles]

/-- What an open that fails leaves of the requests. -/
theorem requests_of_openFails (h : s.Secured held) {facing : Facing} {request : Nat}
    (stage : s.executor.stage = .opening facing request) (fails : s.executorStep.state = .closed) :
    s.executorStep.requests.started =
        (s.requests.started && s.requests.newest != request) ∧
      s.executorStep.queue = s.queue := by
  have failed (t : CameraSystem (Simulator Ticket)) (e : CameraError) :
      (t.failOpen facing request e).requests.started =
          (t.requests.started && t.requests.newest != request) ∧
        (t.failOpen facing request e).queue = t.queue := by
    rw [failOpen, withdraw_eq]
    exact ⟨rfl, rfl⟩
  obtain ⟨-, state, rfl⟩ := h.of_opening stage
  simp only [executorStep, stage] at fails ⊢
  rcases h.holds.acquire_cases facing with
    ⟨absent, -⟩ | ⟨spec, present, -, eq⟩ | ⟨spec, present, -, eq⟩
  · simp only [openNatively, CameraService.sensor?, absent, Option.map_none]
    exact failed s _
  · simp only [openNatively, CameraService.sensor?, present, Option.map_some,
      CameraService.acquire, eq]
    exact failed { s with service := s.service.failedOnce } _
  · simp [openNatively, CameraService.sensor?, present, CameraService.acquire, eq, setStage,
      state] at fails

/-- The camera that was open is closed by the time another is to be opened. -/
theorem slot_of_takes (secured : t.Secured held) (agrees : t.lifecycle.Agrees)
    (idle : t.executor.stage = .idle) {wanted : Facing} {request : Nat} {rest : List Command}
    (queue : t.queue = .openCamera wanted request :: rest) : t.slot = none := by
  rcases secured.between (.inl idle) with ⟨slot, -, -⟩ | ⟨camera, slot, -, -⟩
  · exact slot
  · have orders : t.lifecycle.orders = .opens wanted request :: rest.filterMap Command.order? := by
      simp [lifecycle, queue, Command.order?]
    have closed := agrees.target_of_opens orders
    simp [lifecycle, idle, slot, Stage.phase, Phase.target] at closed

theorem Settled.agrees (settled : t.Settled) (secured : t.Secured held)
    (agrees : t.lifecycle.Agrees) (inUse : t.inUse = true) :
    (t.requests.started = true ↔ t.state = .opened) ∧
      (t.state = .opened ↔ t.slot.isSome = true) ∧
      ∀ camera, t.slot = some camera → camera.sensor.facing = t.requests.facing := by
  obtain ⟨orders, phase⟩ := settled.phase
  have leads := agrees.leads inUse
  have state := secured.state_eq
  rw [Lifecycle.course, orders] at leads
  rw [phase] at leads state
  cases slot : t.slot with
  | none =>
    have stopped : t.requests.started = false := by
      simpa [slot, Phase.target, Requests.target, lifecycle] using leads
    simp [state, slot, stopped, Phase.state]
  | some camera =>
    have wanted : t.requests.started = true ∧ camera.sensor.facing = t.requests.facing := by
      simpa [slot, Phase.target, Requests.target, lifecycle] using leads
    simp [state, slot, wanted, Phase.state]

/-- An order to open is taken only when no camera is open. Once nothing is left to open or to close,
a camera is open just if one is wanted, and it is that one, as long as a user holds the system. An
open that fails is taken back just if nothing newer was asked for; all that was asked for since
waits in its order. -/
theorem requests_agree {settings : Settings} {cameras : List CameraSpec} {capacity : Nat}
    {facing : Facing} {moves : List Move}
    (run : (ofCameras settings cameras capacity facing).run? moves = some t) :
    (∀ wanted request rest, t.executor.stage = .idle →
        t.queue = .openCamera wanted request :: rest → t.slot = none) ∧
      (t.inUse = true → t.Settled → (t.requests.started = true ↔ t.state = .opened) ∧
        (t.state = .opened ↔ t.slot.isSome = true) ∧
        ∀ camera, t.slot = some camera → camera.sensor.facing = t.requests.facing) ∧
      ∀ request, t.OpenFails request →
        t.executorStep.requests.started =
            (t.requests.started && t.requests.newest != request) ∧
          t.executorStep.queue = t.queue ∧
          t.queue.filterMap (fun c => c.order?.bind Order.request?) =
            List.range' (request + 1) (t.requests.newest - request) := by
  obtain ⟨held, secured, agrees⟩ := agrees_of_run? run
  refine ⟨?_, ?_, ?_⟩
  · intro wanted request rest idle queue
    exact slot_of_takes secured agrees idle queue
  · intro inUse settled
    exact settled.agrees secured agrees inUse
  · rintro request ⟨facing, stage, fails⟩
    obtain ⟨started, queue⟩ := requests_of_openFails secured stage fails
    refine ⟨started, queue, ?_⟩
    obtain ⟨answered, numbers⟩ := agrees.numbers
    rw [Lifecycle.pending_eq (by rw [lifecycle, stage]; rfl)] at numbers
    rw [← List.filterMap_filterMap]
    exact (Lifecycle.next_request numbers).2

/-- An open that fails after a swap has superseded it. -/
def supersededFailure : List Move :=
  .flatten [
    [.setFaults { failingOpens := 1 }, .request (.start .back), .task .executor, .request .swap],
    turns 9]

theorem requests_agree_superseded :
    ∃ t, (ofCameras {} Simulator.dual 64 .back).run? supersededFailure = some t ∧
      t.inUse = true ∧ t.Settled ∧ t.requests = ⟨true, .front, 2⟩ ∧
      t.state = .opened ∧ t.slot.isSome = true ∧
      ∀ camera, t.slot = some camera → camera.sensor.facing = .front := by
  obtain ⟨t, run, inUse, settled, requests⟩ :
      ∃ t, (ofCameras {} Simulator.dual 64 .back).run? supersededFailure = some t ∧
        t.inUse = true ∧ t.Settled ∧ t.requests = ⟨true, .front, 2⟩ :=
    ⟨_, rfl, rfl, ⟨List.forall_mem_nil _, rfl⟩, rfl⟩
  obtain ⟨-, agree, -⟩ := requests_agree run
  obtain ⟨opened, held, facing⟩ := agree inUse settled
  have state := opened.1 (by rw [requests])
  rw [requests] at facing
  exact ⟨t, run, inUse, settled, requests, state, held.1 state, facing⟩

end CameraSystem

end Viewfinder
