import Viewfinder.Control.Executor
import Viewfinder.Control.Capture

/-!
# Tasks

Everything that runs without being asked: the executor, preparations, jobs, bridges, devices on
which a frame is due, and frames on their way. `CameraSystem.ready` says which of them can make a
step and `CameraSystem.step` makes it; any order of steps is possible. `Schedule` is the order of a
single thread, in which the task that has been ready for longest goes first.
-/

namespace Viewfinder

inductive Task where
  | executor
  | preparation (session : Nat)
  | job (id : Nat)
  | bridge (feed : Nat)
  | delivery (device : Nat)
  /-- Of the frame for a job. -/
  | arrival (job : Nat)
deriving DecidableEq, Repr

namespace CameraSystem

variable {σ : Type} [CameraService σ]

def job? (s : CameraSystem σ) (id : Nat) : Option Job := s.jobs.find? (·.ticket.job = id)

def bridge? (s : CameraSystem σ) (feed : Nat) : Option Bridge := s.bridges.find? (·.feed = feed)

/-- A session that has its viewport gets its preview negotiated; of one that is over nothing is
left to do. -/
def prepare (s : CameraSystem σ) (session : Nat) : CameraSystem σ :=
  let s' := { s with preparing := s.preparing.filter (· ≠ session) }
  if s.isOver session || s.viewport.isEmpty || !s.hasSenders then s'
  else s'.submit (.configurePreview session)

def bridgeStep (s : CameraSystem σ) (b : Bridge) : CameraSystem σ :=
  let (call, after, bus) := b.step s.bus
  { s with
    bus := bus
    bridges := s.bridges.map fun c => if c.feed = b.feed then after else c
    heard := s.heard ++ (call.map fun call => (b.feed, call)).toList }

def ready (s : CameraSystem σ) : Task → Bool
  | .executor => s.executorReady
  | .preparation session => s.preparing.contains session && s.wakes session
  | .job id => (s.job? id).any s.jobReady
  | .bridge feed => (s.bridge? feed).any (·.enabled s.bus)
  | .delivery device => (CameraService.due s.service).contains device
  | .arrival job => (s.sent? job).isSome

def step (s : CameraSystem σ) : Task → CameraSystem σ
  | .executor => s.executorStep
  | .preparation session => s.prepare session
  | .job id => (s.job? id).elim s s.jobStep
  | .bridge feed => (s.bridge? feed).elim s s.bridgeStep
  | .delivery device => s.send device
  | .arrival job => s.arrive job

def tasks (s : CameraSystem σ) : List Task :=
  .executor :: s.preparing.map .preparation ++ s.jobs.map (.job ·.ticket.job) ++
    s.bridges.map (.bridge ·.feed) ++ (CameraService.due s.service).map .delivery ++
    s.inFlight.map (.arrival ·.ticket.job)

/-- Nothing can make a step. -/
def AtRest (s : CameraSystem σ) : Prop := ∀ t, s.ready t = false

/-- More steps than the tasks can make before all of them rest: a command, with the preparation that
an open leads to, takes fewer than 32, and so does a job, beside one for each bridge that hears of
it. -/
def stepBound (s : CameraSystem σ) : Nat :=
  let work := s.queue.length + s.preparing.length + s.jobs.length + 2
  32 * (s.bridges.length + 1) * work + s.bus.feeds.foldl (fun n f => n + f.queue.length) 0 +
    4 * ((CameraService.due s.service).length + s.inFlight.length)

end CameraSystem

/-- A system with its ready tasks, in the order in which they became ready. -/
structure Schedule (σ : Type) where
  system : CameraSystem σ
  order : List Task := []

namespace Schedule

variable {σ : Type} [CameraService σ]

/-- Drop what is ready no more and append what has become ready. -/
def refresh (s : Schedule σ) : Schedule σ :=
  let kept := s.order.filter s.system.ready
  let fresh := s.system.tasks.filter fun t => s.system.ready t && !kept.contains t
  { s with order := kept ++ fresh.eraseDups }

/-- Change the system from outside. -/
def act {α : Type} (s : Schedule σ) (f : CameraSystem σ → α × CameraSystem σ) : α × Schedule σ :=
  let (a, system) := f s.system
  (a, { s with system := system }.refresh)

/-- Whether a task goes on at once: the executor does not wait between commands, nor a job before
it asks for the frame. -/
def keepsTurn (s : CameraSystem σ) : Task → Bool
  | .executor => s.executor.stage == .idle
  | .job id => (s.job? id).any (·.stage == .ready)
  | _ => false

/-- The task at the front makes a step and, unless it goes on, gets in line again. -/
def advance (s : Schedule σ) : Schedule σ :=
  match s.order with
  | [] => s
  | t :: rest =>
    let system := s.system.step t
    if keepsTurn system t then refresh ⟨system, t :: rest⟩ else refresh ⟨system, rest⟩

def run : Nat → Schedule σ → Schedule σ
  | 0, s => s
  | fuel + 1, s => if s.order.isEmpty then s else run fuel s.advance

/-- Run until all tasks rest. -/
def settle (s : Schedule σ) : Schedule σ := run s.system.stepBound s

end Schedule

end Viewfinder
