import Viewfinder.Proofs.Commands
import Viewfinder.Proofs.Trace

/-!
# What is executed

The commands that a run executes, in their order. What users tell of how the device is held reaches
the executor in the order in which they tell it, with nothing lost or overtaken
(`notices_of_run?`), and the executor goes by the last turn and the last tilt that it has executed
(`held_of_run?`). The native calls that a routine has left are the last of those with which it was
begun (`Stage.Rooted`).
-/

namespace Viewfinder

namespace Command

def turn? : Command → Option QuarterTurn
  | .turnDevice turn => some turn
  | _ => none

def angle? : Command → Option UInt32
  | .tiltDevice angle => some angle
  | _ => none

/-- Whether a command tells how the device is held. -/
def notifies (c : Command) : Bool := c.turn?.isSome || c.angle?.isSome

end Command

/-- What users tell of how the device is held. Of a tilt the angle counts within a full turn, and a
negative reading is none. -/
def Move.notice? : Move → Option Command
  | .request (.turnDevice turn) => some (.turnDevice turn)
  | .request (.tiltDevice angle) =>
    if angle.toInt < 0 then none else some (.tiltDevice (.ofNat (angle.toInt % 360).toNat))
  | _ => none

namespace Routine

/-- The routines with which the executor begins what it ends with a continuation. -/
inductive LeadsTo : Routine → Continuation → Prop
  | install (facing : Facing) (request : Nat) (camera : OpenCamera) (o : Orientation) :
    LeadsTo (configure camera.device camera.capabilities o) (.install facing request camera o)
  | abandon (device : Nat) (facing : Facing) (request : Nat) (e : CameraError) :
    LeadsTo (release device) (.abandon facing request e)
  | forget (device : Nat) (facing : Facing) (last : Bool) :
    LeadsTo (release device) (.forget facing last)
  | resize (camera : OpenCamera) (current size : Size) :
    LeadsTo (resize camera.device current size) (.resize camera size)
  | turn (device : Nat) (displayChanged outputChanged : Bool) (o : Orientation) :
    LeadsTo (turn device displayChanged outputChanged o) (.turn o)
  | focus (device : Nat) (capabilities : Capabilities) (request : FocusRequest) :
    LeadsTo (focus device capabilities request) (.focus request)

/-- A call takes the first step off, and perhaps all the others. -/
theorem perform_suffix {σ : Type} [CameraService σ] (r : Routine) (service : σ) :
    (r.perform service).1.device = r.device ∧ (r.perform service).1.steps <:+ r.steps := by
  unfold perform
  split
  · exact ⟨rfl, List.suffix_rfl⟩
  · next step rest steps =>
    have tail : rest <:+ r.steps := steps ▸ List.suffix_cons step rest
    repeat' (first | exact ⟨rfl, tail⟩ | exact ⟨rfl, List.nil_suffix⟩ | split)

end Routine

/-- The calls that are left are the last of a routine that leads to what comes after them. -/
def Stage.Rooted : Stage → Prop
  | .native routine next => ∃ whole : Routine, whole.LeadsTo next ∧ routine.device = whole.device ∧
      routine.steps <:+ whole.steps
  | _ => True

theorem Routine.LeadsTo.rooted {whole : Routine} {next : Continuation} (h : whole.LeadsTo next) :
    (Stage.native whole next).Rooted :=
  ⟨whole, h, rfl, List.suffix_rfl⟩

namespace DeviceCall

/-- Whether a call is one of those that are made to focus once. -/
def focuses : DeviceCall → Bool
  | .setFocusAreas .. | .autoFocus | .cancelAutoFocus => true
  | _ => false

end DeviceCall

/-- A preview size is set for a resize only, and the calls that focus are made for a tap only. -/
theorem Routine.LeadsTo.purpose {whole : Routine} {next : Continuation} (h : whole.LeadsTo next)
    {step : NativeStep} (mem : step ∈ whole.steps) :
    (∀ size, step.call = .setPreviewSize size →
      ∃ camera, next = .resize camera size ∧ whole.device = camera.device) ∧
    (step.call.focuses = true → ∃ request, next = .focus request) := by
  cases h with
  | install facing request camera o =>
    simp only [Routine.configure, List.mem_append, Option.mem_toList, Option.map_eq_some_iff,
      List.mem_cons, List.not_mem_nil, or_false] at mem
    rcases mem with ⟨mode, -, rfl⟩ | rfl | rfl | rfl <;> simp [DeviceCall.focuses]
  | abandon | forget =>
    simp only [Routine.release, List.mem_cons, List.not_mem_nil, or_false] at mem
    rcases mem with rfl | rfl <;> simp [DeviceCall.focuses]
  | resize camera current size =>
    simp only [Routine.resize] at mem
    split at mem
    · cases mem
    · simp only [List.mem_cons, List.not_mem_nil, or_false] at mem
      rcases mem with rfl | rfl | rfl <;> simp [DeviceCall.focuses, Routine.resize]
  | turn device displayChanged outputChanged o =>
    cases displayChanged <;> cases outputChanged <;> simp [Routine.turn] at mem
    · simp [mem, DeviceCall.focuses]
    · rcases mem with rfl | rfl | rfl <;> simp [DeviceCall.focuses]
    · rcases mem with rfl | rfl | rfl | rfl <;> simp [DeviceCall.focuses]
  | focus device capabilities request =>
    simp only [Routine.focus, List.mem_append, List.mem_cons, List.not_mem_nil, or_false] at mem
    rcases mem with (rfl | mem) | rfl | rfl
    · simp
    · split at mem <;> simp at mem
      simp [mem]
    · simp
    · simp

/-- So it is for the calls that are left. -/
theorem Stage.Rooted.purpose {routine : Routine} {next : Continuation} {step : NativeStep}
    (h : (Stage.native routine next).Rooted) (mem : step ∈ routine.steps) :
    (∀ size, step.call = .setPreviewSize size →
      ∃ camera, next = .resize camera size ∧ routine.device = camera.device) ∧
    (step.call.focuses = true → ∃ request, next = .focus request) := by
  obtain ⟨whole, leads, device, left⟩ := h
  rw [device]
  exact leads.purpose (left.subset mem)

/-- A reading that counts, within a full turn. -/
theorem toUInt32_mod_eq {angle : Int32} (reading : ¬angle.toInt < 0) :
    angle.toUInt32 % 360 = .ofNat (angle.toInt % 360).toNat := by
  have nonneg : 0 ≤ angle := Int32.le_iff_toInt_le.2 (Int.not_lt.1 reading)
  have same : angle.toUInt32.toNat = angle.toInt.toNat := Int32.toNat_toUInt32_of_le nonneg
  have small : (angle.toInt % 360).toNat < UInt32.size := by
    have bound := Int.emod_lt_of_pos angle.toInt (b := 360) (by decide)
    simp only [UInt32.size]
    omega
  apply UInt32.toNat_inj.1
  rw [UInt32.toNat_mod, UInt32.toNat_ofNat_of_lt' small, same]
  show angle.toInt.toNat % 360 = _
  omega

namespace CameraSystem

section

variable {σ : Type}

/-- The command whose execution a move begins. -/
def executes? (s : CameraSystem σ) : Move → Option Command
  | .task .executor => if s.executor.stage = .idle then s.queue.head? else none
  | _ => none

theorem executes?_of_idle {s : CameraSystem σ} (idle : s.executor.stage = .idle) :
    s.executes? (.task .executor) = s.queue.head? := by
  simp [executes?, idle]

theorem executes?_of_busy {s : CameraSystem σ} (busy : s.executor.stage ≠ .idle) (m : Move) :
    s.executes? m = none := by
  unfold executes?
  split
  · rw [if_neg busy]
  · rfl

theorem executes?_of_other {s : CameraSystem σ} {m : Move} (other : m ≠ .task .executor) :
    s.executes? m = none := by
  unfold executes?
  split
  · exact absurd rfl other
  · rfl

/-! ## The queue -/

theorem queue_resume (s : CameraSystem σ) (r : Routine) (next : Continuation) :
    (s.resume r next).queue = s.queue := by
  cases next <;>
    simp only [resume, install, abandon, failOpen, withdraw, forget, announce] <;>
    repeat' (first | rfl | split)

theorem queue_beginClose (s : CameraSystem σ) (last : Bool) :
    (s.beginClose last).queue = s.queue := by
  unfold beginClose
  split <;> rfl

variable [CameraService σ]

theorem queue_openNatively (s : CameraSystem σ) (facing : Facing) (request : Nat) :
    (s.openNatively facing request).queue = s.queue := by
  simp only [openNatively, failOpen, withdraw]
  repeat' (first | rfl | split)

/-- The executor takes nothing from the queue but the command that it executes. -/
theorem queue_executorStep (s : CameraSystem σ) :
    s.queue = (s.executes? (.task .executor)).toList ++ s.executorStep.queue := by
  by_cases idle : s.executor.stage = .idle
  · rw [executes?_of_idle idle]
    cases queue : s.queue with
    | nil =>
      simp only [executorStep, idle, queue]
      split <;> simp [queue_beginClose, queue]
    | cons c rest => simp [executorStep, idle, queue, (execute_sameErrands _ c).queue]
  · rw [executes?_of_busy idle]
    unfold executorStep
    split
    · next eq => exact absurd eq idle
    · exact (s.queue_openNatively _ _).symm
    · split
      · exact (s.queue_resume _ _).symm
      · rfl
    all_goals rfl

/-- What is asked is put behind what waits, and with it all that is told of the device. -/
theorem queue_request (s : CameraSystem σ) (r : Request) :
    ∃ asked, (s.request r).queue = s.queue ++ asked ∧
      asked.filter Command.notifies = (Move.request r).notice?.toList := by
  cases r with
  | start facing =>
    simp only [request, start, openRequest, submit]
    split
    · exact ⟨[], (List.append_nil _).symm, rfl⟩
    · exact ⟨[_], rfl, rfl⟩
  | pause =>
    simp only [request, pause, submit]
    split
    · exact ⟨[_], rfl, rfl⟩
    · exact ⟨[], (List.append_nil _).symm, rfl⟩
  | swap =>
    simp only [request, swap, openRequest, submit]
    split
    · exact ⟨[], (List.append_nil _).symm, rfl⟩
    · split
      · exact ⟨[.closeCamera, _], List.append_assoc _ _ _, rfl⟩
      · exact ⟨[_], rfl, rfl⟩
  | setViewport viewport =>
    simp only [request, setViewport, submit]
    split
    · exact ⟨[], (List.append_nil _).symm, rfl⟩
    · split
      · exact ⟨[_], rfl, rfl⟩
      · exact ⟨[], (List.append_nil _).symm, rfl⟩
  | turnDevice turn => exact ⟨[.turnDevice turn], rfl, rfl⟩
  | tiltDevice angle =>
    have zero : (0 : Int32).toInt = 0 := rfl
    simp only [request, tiltDevice, submit, Move.notice?, Int32.lt_iff_toInt_lt, zero]
    split
    · exact ⟨[], (List.append_nil _).symm, rfl⟩
    · next reading => exact ⟨[_], rfl, by rw [toUInt32_mod_eq reading]; rfl⟩
  | focusOn tap =>
    simp only [request, focusOn, submit]
    split
    · exact ⟨[], (List.append_nil _).symm, rfl⟩
    · split
      · exact ⟨[], (List.append_nil _).symm, rfl⟩
      · split
        · exact ⟨[_], rfl, rfl⟩
        · exact ⟨[], (List.append_nil _).symm, rfl⟩
  | takePicture visible =>
    simp only [request, takePicture]
    split <;> exact ⟨[], (List.append_nil _).symm, rfl⟩
  | setListener | clearListener | drop =>
    simp only [request, setListener, clearListener, drop]
    split <;> exact ⟨[], (List.append_nil _).symm, rfl⟩
  | subscribe => exact ⟨[], (List.append_nil _).symm, rfl⟩
  | barrier => exact ⟨[.barrier], rfl, rfl⟩

variable [FaultInjection σ]

/-- Others than the executor take nothing from the queue. -/
theorem queue_move_of_other (s : CameraSystem σ) {m : Move} (other : m ≠ .task .executor) :
    ∃ asked, (s.move m).queue = s.queue ++ asked ∧
      asked.filter Command.notifies = m.notice?.toList := by
  have none {t : CameraSystem σ} (same : t.queue = s.queue) :
      ∃ asked, t.queue = s.queue ++ asked ∧ asked.filter Command.notifies = [] :=
    ⟨[], same.trans (List.append_nil _).symm, rfl⟩
  cases m with
  | request r => exact s.queue_request r
  | setFaults faults => exact none rfl
  | task t =>
    cases t with
    | executor => exact absurd rfl other
    | preparation session =>
      simp only [move, step, prepare, submit]
      split
      · exact none rfl
      · exact ⟨[_], rfl, rfl⟩
    | job id =>
      simp only [move, step]
      cases s.job? id with
      | none => exact none rfl
      | some j => exact none (s.jobStep_sameDemand j).queue
    | bridge feed =>
      simp only [move, step]
      cases s.bridge? feed <;> exact none rfl
    | delivery device => exact none (s.send_sameDemand device).1.queue
    | arrival job => exact none (s.arrive_sameDemand job).1.queue

/-- What was told and executed, and what was told and waits, is what users told, in its order. -/
theorem notices_of_run? {s t : CameraSystem σ} {moves : List Move} (run : s.run? moves = some t) :
    (s.along executes? moves).filter Command.notifies ++ t.queue.filter Command.notifies =
      s.queue.filter Command.notifies ++ moves.filterMap Move.notice? := by
  induction moves generalizing s with
  | nil =>
    cases run
    simp [along]
  | cons m rest ih =>
    obtain ⟨-, run⟩ := run?_cons_eq_some.1 run
    rw [along, List.filter_append, List.append_assoc, ih run]
    by_cases own : m = .task .executor
    · subst own
      rw [s.queue_executorStep, List.filter_append, List.append_assoc]
      rfl
    · obtain ⟨asked, queue, told⟩ := s.queue_move_of_other own
      rw [queue, executes?_of_other own, List.filter_append, told]
      cases notice : m.notice? <;> simp [notice]

/-! ## How the device is held -/

omit [FaultInjection σ] in
theorem held_execute (s : CameraSystem σ) (c : Command) :
    (s.execute c).executor.turn = c.turn?.getD s.executor.turn ∧
      (s.execute c).executor.angle = c.angle?.or s.executor.angle := by
  cases c <;>
    simp only [execute, beginClose, configurePreview, announce, refreshOrientation, applyFocus] <;>
    repeat' (first | exact ⟨rfl, rfl⟩ | split)

omit [CameraService σ] [FaultInjection σ] in
theorem held_resume (s : CameraSystem σ) (r : Routine) (next : Continuation) :
    (s.resume r next).executor.turn = s.executor.turn ∧
      (s.resume r next).executor.angle = s.executor.angle := by
  cases next <;>
    simp only [resume, install, abandon, failOpen, withdraw, forget, announce] <;>
    repeat' (first | exact ⟨rfl, rfl⟩ | split)

/-- Only a turn and a tilt that are executed change how the executor takes the device to be held. -/
theorem held_move (s : CameraSystem σ) (m : Move) :
    (s.move m).executor.turn = ((s.executes? m).bind Command.turn?).getD s.executor.turn ∧
      (s.move m).executor.angle = ((s.executes? m).bind Command.angle?).or s.executor.angle := by
  by_cases own : m = .task .executor
  · subst own
    show s.executorStep.executor.turn = _ ∧ s.executorStep.executor.angle = _
    by_cases idle : s.executor.stage = .idle
    · rw [executes?_of_idle idle]
      cases queue : s.queue with
      | nil =>
        simp only [executorStep, idle, queue, beginClose]
        repeat' (first | exact ⟨rfl, rfl⟩ | split)
      | cons c rest =>
        simp only [executorStep, idle, queue]
        exact held_execute _ c
    · rw [executes?_of_busy idle]
      unfold executorStep
      split
      · next eq => exact absurd eq idle
      · simp only [openNatively, failOpen, withdraw]
        repeat' (first | exact ⟨rfl, rfl⟩ | split)
      · split
        · exact s.held_resume _ _
        · exact ⟨rfl, rfl⟩
      all_goals exact ⟨rfl, rfl⟩
  · rw [executes?_of_other own, (undisturbed_move own).executor]
    exact ⟨rfl, rfl⟩

/-- The executor goes by the last turn and the last tilt that it has executed. -/
theorem held_of_run? {s t : CameraSystem σ} {moves : List Move} (run : s.run? moves = some t) :
    t.executor.turn =
        ((s.along executes? moves).filterMap Command.turn?).getLast?.getD s.executor.turn ∧
      t.executor.angle =
        ((s.along executes? moves).filterMap Command.angle?).getLast?.or s.executor.angle := by
  induction moves generalizing s with
  | nil =>
    cases run
    exact ⟨rfl, rfl⟩
  | cons m rest ih =>
    obtain ⟨-, run⟩ := run?_cons_eq_some.1 run
    obtain ⟨turn, angle⟩ := ih run
    obtain ⟨turn', angle'⟩ := s.held_move m
    have last {α : Type} (kind : Command → Option α) (later : List Command) :
        (((s.executes? m).toList ++ later).filterMap kind).getLast? =
          (later.filterMap kind).getLast?.or ((s.executes? m).bind kind) := by
      rw [List.filterMap_append, List.getLast?_append]
      congr 1
      cases s.executes? m with
      | none => rfl
      | some c => cases told : kind c <;> simp [told]
    rw [turn, angle, turn', angle', along, last, last, Option.or_assoc]
    exact ⟨by cases ((s.move m).along executes? rest).filterMap Command.turn? |>.getLast? <;> rfl,
      rfl⟩

/-! ## Calls that are left -/

omit [CameraService σ] [FaultInjection σ] in
theorem rooted_beginClose (s : CameraSystem σ) (last : Bool) :
    (s.beginClose last).executor.stage.Rooted := by
  unfold beginClose
  split
  · cases last <;> trivial
  · next camera _ => exact (Routine.LeadsTo.forget camera.device _ last).rooted

omit [FaultInjection σ] in
theorem rooted_execute (s : CameraSystem σ) (idle : s.executor.stage = .idle) (c : Command) :
    (s.execute c).executor.stage.Rooted := by
  have rooted : s.executor.stage.Rooted := by
    rw [idle]
    trivial
  cases c with
  | openCamera facing request =>
    simp only [execute]
    split
    · exact rooted
    · trivial
  | closeCamera => exact s.rooted_beginClose false
  | configurePreview session =>
    rw [execute]
    rcases s.configurePreview_cases session with
      ⟨-, eq⟩ | ⟨camera, -, -, ⟨-, eq⟩ | ⟨size, -, ⟨-, eq⟩ | ⟨-, eq⟩⟩⟩
    all_goals rw [eq]
    · exact rooted
    · exact rooted
    · unfold announce
      split <;> exact rooted
    · exact (Routine.LeadsTo.resize camera _ size).rooted
  | turnDevice | tiltDevice =>
    simp only [execute, refreshOrientation]
    repeat' (first | exact rooted | exact (Routine.LeadsTo.turn _ _ _ _).rooted | split)
  | applyFocus =>
    rw [execute]
    obtain ⟨tap, eq | ⟨camera, -, eq | ⟨request, eq⟩⟩⟩ := s.applyFocus_cases
    all_goals rw [eq]
    · exact rooted
    · trivial
    · exact (Routine.LeadsTo.focus camera.device camera.capabilities request).rooted
  | barrier => exact rooted

omit [CameraService σ] [FaultInjection σ] in
theorem rooted_resume (s : CameraSystem σ) (r : Routine) (next : Continuation) :
    (s.resume r next).executor.stage.Rooted := by
  have abandoned (device : Nat) (facing : Facing) (request : Nat) (e : CameraError) :
      (s.abandon device facing request e).executor.stage.Rooted :=
    (Routine.LeadsTo.abandon device facing request e).rooted
  cases next with
  | install facing request camera o =>
    simp only [resume]
    split
    · trivial
    · exact abandoned _ _ _ _
    · exact abandoned _ _ _ _
  | abandon facing request e => trivial
  | forget facing last => cases last <;> trivial
  | resize camera size | turn o | focus request =>
    simp only [resume]
    repeat' (first | trivial | split)

omit [FaultInjection σ] in
theorem rooted_executorStep (s : CameraSystem σ) (rooted : s.executor.stage.Rooted) :
    s.executorStep.executor.stage.Rooted := by
  unfold executorStep
  split
  · next idle =>
    split
    · next c rest _ => exact rooted_execute { s with queue := rest } idle c
    · split
      · exact rooted
      · exact s.rooted_beginClose true
  · next facing request _ =>
    simp only [openNatively]
    split
    · trivial
    · split
      · trivial
      · trivial
      · next device service _ =>
        exact (Routine.LeadsTo.install facing request _ _).rooted
  · next routine next stage =>
    split
    · exact s.rooted_resume routine next
    · rw [stage] at rooted
      obtain ⟨whole, leads, device, left⟩ := rooted
      obtain ⟨device', left'⟩ := routine.perform_suffix s.service
      exact ⟨whole, leads, device'.trans device, left'.trans left⟩
  all_goals exact rooted

/-- The calls that are left are the last of the routine that was begun. -/
theorem rooted_move (s : CameraSystem σ) (m : Move) (rooted : s.executor.stage.Rooted) :
    (s.move m).executor.stage.Rooted := by
  by_cases own : m = .task .executor
  · subst own
    exact s.rooted_executorStep rooted
  · rw [(undisturbed_move own).executor]
    exact rooted

theorem rooted_of_run? {s t : CameraSystem σ} {moves : List Move} (run : s.run? moves = some t)
    (rooted : s.executor.stage.Rooted) : t.executor.stage.Rooted :=
  run?_keeps (P := fun u => u.executor.stage.Rooted) (fun u m rooted _ => u.rooted_move m rooted)
    run rooted

end

end CameraSystem

end Viewfinder
