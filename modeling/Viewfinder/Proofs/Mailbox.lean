import Mathlib.Data.List.Chain
import Viewfinder.Proofs.Execution
import Viewfinder.Proofs.Orienting

/-!
# The mailbox for taps

A tap that is accepted waits in a mailbox of one place until a command takes it. Closing the camera
empties the mailbox but leaves the commands in the queue, so that there can be more commands than
taps; never are there fewer. A tap is taken as the one that was accepted last, in the session in
which it was made (`TapMark.Follows`). Only a tap whose areas cannot be computed takes the executor
down (`tapped_of_crashed`).
-/

namespace Viewfinder

/-- What becomes of taps. -/
inductive TapMark where
  /-- A tap is accepted in a session. -/
  | made (session : Nat) (tap : Tap)
  /-- A command takes a tap, in the session that is open if one is. -/
  | taken (session : Option Nat) (tap : Tap)
  /-- A session ends. -/
  | closed (session : Nat)
deriving DecidableEq, Repr

namespace TapMark

/-- A tap that nobody has taken yet. -/
def waits : TapMark → Bool
  | made .. => true
  | _ => false

def taken? : TapMark → Option (Option Nat × Tap)
  | taken session tap => some (session, tap)
  | _ => none

/-- What can come after a mark: a tap that waits is replaced, taken or lost with its session, and
only then. -/
inductive Follows : TapMark → TapMark → Prop
  | replaced (session : Nat) (tap tap' : Tap) : Follows (made session tap) (made session tap')
  | taken (session : Nat) (tap : Tap) : Follows (made session tap) (taken (some session) tap)
  | closed (session : Nat) (tap : Tap) : Follows (made session tap) (closed session)
  | next {a b : TapMark} (served : a.waits = false) (other : b.taken? = none) : Follows a b

end TapMark

/-- The areas of a tap can be computed, whatever the preview and the camera. -/
def FocusMapper.Computes (f : FocusMapper) (tap : Tap) : Prop :=
  ∀ preview rotation capabilities, f.request? tap preview rotation capabilities ≠ none

namespace CameraSystem

section

variable {σ : Type}

/-- The tap that waits for the open camera. -/
def pending? (s : CameraSystem σ) : Option TapMark :=
  s.slot.bind fun camera => s.tap.map (.made camera.session)

/-- What a step of the executor does to taps. -/
def turnMark? (s t : CameraSystem σ) : Option TapMark :=
  if s.executes? (.task .executor) = some .applyFocus then s.tap.map (.taken s.session?)
  else
    match s.session?, t.session? with
    | some session, none => some (.closed session)
    | _, _ => none

theorem turnMark?_of_closed {s t : CameraSystem σ} (slot : t.slot = none)
    (other : s.executes? (.task .executor) ≠ some .applyFocus) :
    s.turnMark? t = s.session?.map .closed := by
  rw [turnMark?, if_neg other]
  cases session : s.session? <;> simp [session?, slot]

/-- What a move does to taps. -/
def tapMark? [CameraService σ] (s : CameraSystem σ) : Move → Option TapMark
  | .request (.focusOn tap) =>
    if (s.focusOn tap).1 then s.session?.map fun session => .made session tap else none
  | .task .executor => s.turnMark? s.executorStep
  | _ => none

theorem turnMark?_of_slot {s t : CameraSystem σ} (slot : s.slot = none ∨ t.slot = s.slot)
    (other : s.executes? (.task .executor) ≠ some .applyFocus) : s.turnMark? t = none := by
  rw [turnMark?, if_neg other]
  rcases slot with slot | slot
  · simp [session?, slot]
  · rw [session?, session?, slot]
    cases s.slot <;> rfl

/-- A tap is accepted by a camera that can focus, and some command for it waits then. -/
theorem focusOn_cases (s : CameraSystem σ) (tap : Tap) :
    (∀ camera, s.slot = some camera → camera.capabilities.steerable = false) ∧
        s.focusOn tap = (false, s) ∨
      ∃ camera, s.slot = some camera ∧ camera.capabilities.steerable = true ∧
        (s.focusOn tap).1 = true ∧ (s.focusOn tap).2.tap = some tap ∧
        (s.focusOn tap).2.queue = s.queue ++ if s.tap.isNone then [.applyFocus] else [] := by
  cases slot : s.slot with
  | none => exact .inl ⟨by simp, by simp [focusOn, slot]⟩
  | some camera =>
    cases steerable : camera.capabilities.steerable with
    | false => exact .inl ⟨by simp [steerable], by simp [focusOn, slot, steerable]⟩
    | true =>
      refine .inr ⟨camera, rfl, steerable, ?_⟩
      simp only [focusOn, slot, steerable, submit]
      cases s.tap <;> simp

theorem tap_resume (s : CameraSystem σ) (routine : Routine) {next : Continuation}
    (works : next.works = true) : (s.resume routine next).tap = s.tap := by
  cases next with
  | install | abandon | forget => cases works
  | resize | turn | focus =>
    simp only [resume, announce]
    repeat' (first | rfl | split)

theorem tap_beginClose (s : CameraSystem σ) (last : Bool) : (s.beginClose last).tap = s.tap := by
  unfold beginClose
  split <;> rfl

/-- A tap that is taken leads to a routine if the open camera can focus on it, and takes the
executor down if its areas cannot be computed. -/
theorem applyFocus_taken (s : CameraSystem σ) {tap : Tap} (waits : s.tap = some tap) :
    s.applyFocus = { s with tap := none } ∨
      ∃ camera preview, s.slot = some camera ∧ s.preview = some preview ∧
        (s.settings.focusMapper.request? tap preview s.display camera.capabilities = none ∧
            s.applyFocus = { s with tap := none }.setStage .crashed ∨
          ∃ request, s.settings.focusMapper.request? tap preview s.display camera.capabilities =
              some (some request) ∧
            s.applyFocus = { s with tap := none }.setStage
              (.native (.focus camera.device camera.capabilities request) (.focus request))) := by
  simp only [applyFocus, waits]
  split
  · next camera preview slot shown =>
    split
    · next overflows => exact .inr ⟨camera, preview, slot, shown, .inl ⟨overflows, rfl⟩⟩
    · exact .inl rfl
    · next request found =>
      exact .inr ⟨camera, preview, slot, shown, .inr ⟨request, found, rfl⟩⟩
  · exact .inl rfl

theorem tap_applyFocus (s : CameraSystem σ) : s.applyFocus.tap = none := by
  cases waits : s.tap with
  | none => simp [applyFocus, waits]
  | some tap =>
    rcases s.applyFocus_taken waits with
      eq | ⟨camera, preview, -, -, ⟨-, eq⟩ | ⟨request, -, eq⟩⟩ <;> rw [eq] <;> rfl

variable [CameraService σ]

/-- Only the command to focus takes the tap. -/
theorem tap_execute (s : CameraSystem σ) {c : Command} (other : c ≠ .applyFocus) :
    (s.execute c).tap = s.tap := by
  cases c with
  | applyFocus => exact absurd rfl other
  | _ =>
    simp only [execute, beginClose, configurePreview, announce, refreshOrientation]
    repeat' (first | rfl | split)

variable [FaultInjection σ]

/-- Others than the executor leave the tap, unless it is a new one that comes. -/
theorem tap_move_of_other (s : CameraSystem σ) {m : Move} (other : m ≠ .task .executor)
    (quiet : ∀ tap, m ≠ .request (.focusOn tap)) : (s.move m).tap = s.tap := by
  cases m with
  | request r =>
    cases r with
    | focusOn tap => exact absurd rfl (quiet tap)
    | _ =>
      simp only [move, request, start, openRequest, pause, swap, setViewport, turnDevice,
        tiltDevice, takePicture, setListener, clearListener, barrier, drop, submit]
      repeat' (first | rfl | split)
  | setFaults faults => rfl
  | task t =>
    cases t with
    | executor => exact absurd rfl other
    | preparation session =>
      simp only [move, step, prepare, submit]
      split <;> rfl
    | job id =>
      simp only [move, step]
      cases s.job? id with
      | none => rfl
      | some j =>
        simp only [Option.elim, jobStep, requestFrame]
        repeat' (first | rfl | split)
    | bridge feed =>
      simp only [move, step]
      cases s.bridge? feed <;> rfl
    | delivery device =>
      simp only [move, step, send]
      split <;> rfl
    | arrival job =>
      simp only [move, step, arrive, handOver]
      repeat' (first | rfl | split)

end

variable {s t : CameraSystem (Simulator Ticket)} {held : Option Nat} {marks : List TapMark}

/-- The mailbox holds the tap that was accepted last in the open session, until it is taken, and
never without a command to take it. -/
structure Mailed (s : CameraSystem (Simulator Ticket)) (marks : List TapMark) : Prop where
  chain : marks.IsChain TapMark.Follows
  founded : ∀ mark ∈ marks.head?, mark.taken? = none
  pending : marks.getLast?.filter TapMark.waits = s.pending?
  waits : s.tap ≠ none → .applyFocus ∈ s.queue
  emptied : s.slot = none → s.state ≠ .closing → s.tap = none

theorem Mailed.of_same (h : s.Mailed marks) (slot : t.slot = s.slot) (tap : t.tap = s.tap)
    (queue : s.tap ≠ none → .applyFocus ∈ t.queue)
    (state : s.slot = none → t.state ≠ .closing → s.state ≠ .closing) : t.Mailed marks := by
  refine ⟨h.chain, h.founded, ?_, ?_, ?_⟩
  · rw [pending?, slot, tap]
    exact h.pending
  · rw [tap]
    exact queue
  · rw [slot, tap]
    exact fun empty going => h.emptied empty (state empty going)

/-- One more mark, which may follow the tap that waits. -/
theorem Mailed.mark (h : s.Mailed marks) {mark : TapMark}
    (follows : ∀ waiting, s.pending? = some waiting → TapMark.Follows waiting mark)
    (founded : s.pending? = none → mark.taken? = none)
    (pending : (some mark).filter TapMark.waits = t.pending?)
    (waits : t.tap ≠ none → .applyFocus ∈ t.queue)
    (emptied : t.slot = none → t.state ≠ .closing → t.tap = none) :
    t.Mailed (marks ++ [mark]) := by
  have before := h.pending
  refine ⟨?_, ?_, ?_, waits, emptied⟩
  · refine List.isChain_append.2 ⟨h.chain, List.isChain_singleton _, ?_⟩
    rintro last mem new ⟨⟩
    rw [Option.mem_def.1 mem] at before
    cases served : last.waits with
    | true => exact follows last (by simpa [Option.filter, served] using before.symm)
    | false =>
      exact .next served (founded (by simpa [Option.filter, served] using before.symm))
  · cases marks with
    | nil =>
      rintro first ⟨⟩
      exact founded before.symm
    | cons first rest => exact h.founded
  · rw [List.getLast?_concat]
    exact pending

theorem pending?_eq_some {waiting : TapMark} :
    s.pending? = some waiting ↔
      ∃ camera tap, s.slot = some camera ∧ s.tap = some tap ∧
        waiting = .made camera.session tap := by
  simp only [pending?, Option.bind_eq_some_iff, Option.map_eq_some_iff]
  constructor
  · rintro ⟨camera, slot, tap, waits, rfl⟩
    exact ⟨camera, tap, slot, waits, rfl⟩
  · rintro ⟨camera, tap, slot, waits, rfl⟩
    exact ⟨camera, slot, tap, waits, rfl⟩

theorem pending?_of_tap (tap : s.tap = none) : s.pending? = none := by
  rw [pending?, tap]
  cases s.slot <;> rfl

theorem pending?_of_slot (slot : s.slot = none) : s.pending? = none := by
  rw [pending?, slot]
  rfl

/-- The slot is emptied, and the tap that waits for its camera is lost. -/
theorem Mailed.beginClose (h : s.Mailed marks) (last : Bool) :
    (s.beginClose last).Mailed (marks ++ (s.session?.map .closed).toList) := by
  have waits : (s.beginClose last).tap ≠ none → .applyFocus ∈ (s.beginClose last).queue := by
    rw [tap_beginClose, queue_beginClose]
    exact h.waits
  cases slot : s.slot with
  | none =>
    have eq : s.beginClose last = s.setStage (if last then .stopped else .idle) := by
      simp [CameraSystem.beginClose, slot]
    simp only [session?, slot, Option.map_none, Option.toList_none, List.append_nil]
    rw [eq]
    exact h.of_same rfl rfl h.waits fun _ going => going
  | some camera =>
    simp only [session?, slot, Option.map_some, Option.toList_some]
    refine h.mark ?_ (fun _ => rfl) ?_ waits ?_
    · intro waiting pending
      obtain ⟨other, tap, slot', -, rfl⟩ := pending?_eq_some.1 pending
      cases slot.symm.trans slot'
      exact .closed camera.session tap
    · exact (pending?_of_slot (slot_beginClose s last)).symm
    · intro _ going
      refine absurd ?_ going
      simp [CameraSystem.beginClose, slot, setStage, enter, publish]

/-- A command takes the tap that was accepted last, if one waits. -/
theorem Mailed.taken (h : s.Mailed marks) (secured : s.Secured held)
    (idle : s.executor.stage = .idle) (taken : t.tap = none) :
    t.Mailed (marks ++ (s.tap.map (TapMark.taken s.session?)).toList) := by
  have emptied : t.pending? = none := pending?_of_tap taken
  cases tap : s.tap with
  | none =>
    rw [Option.map_none, Option.toList_none, List.append_nil]
    refine ⟨h.chain, h.founded, ?_, fun waits => absurd taken waits, fun _ _ => taken⟩
    rw [h.pending, emptied, pending?_of_tap tap]
  | some newest =>
    obtain ⟨camera, slot⟩ : ∃ camera, s.slot = some camera := by
      cases slot : s.slot with
      | some camera => exact ⟨camera, rfl⟩
      | none =>
        have lost := h.emptied slot (by simp [secured.state_of_idle idle slot])
        cases lost.symm.trans tap
    have pending : s.pending? = some (.made camera.session newest) :=
      pending?_eq_some.2 ⟨camera, newest, slot, tap, rfl⟩
    rw [session?, slot, Option.map_some, Option.map_some, Option.toList_some]
    refine h.mark ?_ ?_ emptied.symm (fun waits => absurd taken waits) fun _ _ => taken
    · intro waiting waits
      cases pending.symm.trans waits
      exact .taken camera.session newest
    · intro none
      cases none.symm.trans pending

theorem Mailed.take (h : s.Mailed marks) (secured : s.Secured held)
    (idle : s.executor.stage = .idle) {c : Command} {rest : List Command}
    (queue : s.queue = c :: rest) :
    ({ s with queue := rest }.execute c).Mailed
      (marks ++ (s.turnMark? ({ s with queue := rest }.execute c)).toList) := by
  have executes : s.executes? (.task .executor) = some c := by
    rw [executes?_of_idle idle, queue]
    rfl
  by_cases focuses : c = .applyFocus
  · subst focuses
    rw [turnMark?, if_pos executes]
    exact h.taken secured idle (tap_applyFocus _)
  have other : s.executes? (.task .executor) ≠ some .applyFocus := by simp [executes, focuses]
  have waits : s.tap ≠ none → .applyFocus ∈ rest := by
    intro waits
    have mem := h.waits waits
    rw [queue, List.mem_cons] at mem
    exact mem.resolve_left fun eq => focuses eq.symm
  by_cases closes : c = .closeCamera
  · subst closes
    rw [execute, turnMark?_of_closed (slot_beginClose _ false) other]
    have left : { s with queue := rest }.Mailed marks :=
      h.of_same rfl rfl waits fun _ going => going
    exact left.beginClose false
  · have slot : ({ s with queue := rest }.execute c).slot = s.slot := slot_execute _ closes
    rw [turnMark?_of_slot (.inr slot) other, Option.toList_none, List.append_nil]
    refine h.of_same slot (tap_execute _ focuses) ?_ fun empty _ => ?_
    · rw [(execute_sameErrands _ c).queue]
      exact waits
    · simp [secured.state_of_idle idle empty]

theorem Mailed.of_turn (h : s.Mailed marks) (secured : s.Secured held) (turn : Turn s t) :
    t.Mailed (marks ++ (s.turnMark? t).toList) := by
  have unmarked (busy : s.executor.stage ≠ .idle) (slot : s.slot = none ∨ t.slot = s.slot) :
      marks ++ (s.turnMark? t).toList = marks := by
    rw [turnMark?_of_slot slot (by simp [executes?_of_busy busy]), Option.toList_none,
      List.append_nil]
  cases turn with
  | take c rest idle queue => exact h.take secured idle queue
  | finish idle queue unsent =>
    rw [turnMark?_of_closed (slot_beginClose s true) (by simp [executes?_of_idle idle, queue])]
    exact h.beginClose true
  | missing facing request stage absent | refused facing request stage present =>
    obtain ⟨slot, state, -⟩ := secured.of_opening stage
    rw [unmarked (by simp [stage]) (.inl slot), failOpen, withdraw_eq]
    exact h.of_same rfl rfl h.waits fun _ _ => by simp [state]
  | acquired facing request spec capabilities o stage =>
    rw [unmarked (by simp [stage]) (.inr rfl)]
    exact h.of_same rfl rfl h.waits fun _ going => going
  | called routine next step rest stage steps =>
    rw [unmarked (by simp [stage]) (.inr rfl)]
    exact h.of_same rfl rfl h.waits fun _ going => going
  | installed routine facing request camera o stage steps =>
    -- no tap of an earlier session is left for this one
    obtain ⟨slot, state, -⟩ := secured.of_installing stage
    have lost := h.emptied slot (by simp [state])
    rw [unmarked (by simp [stage]) (.inl slot)]
    refine ⟨h.chain, h.founded, ?_, h.waits, fun _ _ => lost⟩
    rw [h.pending, pending?_of_slot slot]
    exact (pending?_of_tap (s := s.install facing camera o) lost).symm
  | forgotten routine facing last stage steps =>
    obtain ⟨slot, -⟩ := secured.of_closing stage
    rw [unmarked (by simp [stage]) (.inl slot)]
    refine ⟨h.chain, h.founded, ?_, fun waits => absurd rfl waits, fun _ _ => rfl⟩
    rw [h.pending, pending?_of_slot slot]
    exact (pending?_of_slot (s := s.forget facing last) slot).symm
  | worked routine next works stage steps =>
    have returned := s.resume_returned routine works
    rw [unmarked (by simp [stage]) (.inr returned.slot)]
    refine h.of_same returned.slot (s.tap_resume routine works) ?_ ?_
    · rw [returned.queue]
      exact h.waits
    · rw [returned.state]
      exact fun _ going => going

theorem Mailed.focusOn (h : s.Mailed marks) (tap : Tap) :
    (s.focusOn tap).2.Mailed (marks ++ (s.tapMark? (.request (.focusOn tap))).toList) := by
  rcases s.focusOn_cases tap with ⟨-, refused⟩ | ⟨camera, slot, -, accepted, tap', queue⟩
  · simp [tapMark?, refused, h]
  · have same : (s.focusOn tap).2.slot = s.slot := (s.request_undisturbed (.focusOn tap)).slot
    rw [tapMark?, if_pos accepted, session?, slot]
    refine h.mark ?_ (fun _ => rfl) ?_ ?_ ?_
    · intro waiting pending
      obtain ⟨other, before, slot', -, rfl⟩ := pending?_eq_some.1 pending
      cases slot.symm.trans slot'
      exact .replaced camera.session before tap
    · exact (pending?_eq_some.2 ⟨camera, tap, same.trans slot, tap', rfl⟩).symm
    · intro _
      rw [queue]
      cases before : s.tap with
      | none => simp
      | some _ => simp [h.waits (by simp [before])]
    · intro empty
      cases (same.trans slot).symm.trans empty

theorem Mailed.move (h : s.Mailed marks) (secured : s.Secured held) {m : Move}
    (enabled : s.enabled m = true) : (s.move m).Mailed (marks ++ (s.tapMark? m).toList) := by
  by_cases own : m = .task .executor
  · subst own
    exact h.of_turn secured (secured.turn enabled)
  by_cases asks : ∃ tap, m = .request (.focusOn tap)
  · obtain ⟨tap, rfl⟩ := asks
    exact h.focusOn tap
  · have none : s.tapMark? m = none := by
      unfold tapMark?
      split
      · exact absurd ⟨_, rfl⟩ asks
      · exact absurd rfl own
      · rfl
    have same := undisturbed_move (s := s) own
    obtain ⟨asked, queue, -⟩ := s.queue_move_of_other own
    rw [none, Option.toList_none, List.append_nil]
    refine h.of_same same.slot (s.tap_move_of_other own fun tap eq => asks ⟨tap, eq⟩) ?_ ?_
    · rw [queue]
      exact fun waits => List.mem_append_left _ (h.waits waits)
    · rw [same.state]
      exact fun _ going => going

/-! ## Taps that take the executor down -/

/-- A tap that a user makes. -/
def taps? {σ : Type} (_ : CameraSystem σ) : Move → Option Tap
  | .request (.focusOn tap) => some tap
  | _ => none

/-- Another command does not take the executor down. -/
theorem crashed_execute (idle : s.executor.stage = .idle) {c : Command} (other : c ≠ .applyFocus) :
    (s.execute c).executor.stage ≠ .crashed := by
  have still : s.executor.stage ≠ .crashed := by simp [idle]
  cases c with
  | applyFocus => exact absurd rfl other
  | _ =>
    simp only [execute, beginClose, configurePreview, announce, refreshOrientation]
    repeat' (first | exact still | exact Stage.noConfusion | split)

/-- The executor is taken down by a tap that waits, and by nothing else. -/
theorem crashed_of_turn (turn : Turn s t) (crashed : t.executor.stage = .crashed) :
    ∃ tap, s.tap = some tap ∧ ¬s.settings.focusMapper.Computes tap := by
  cases turn with
  | take c rest idle queue =>
    by_cases focuses : c = .applyFocus
    · subst focuses
      rw [execute] at crashed
      cases waits : s.tap with
      | none =>
        simp only [applyFocus, waits] at crashed
        cases idle.symm.trans crashed
      | some tap =>
        rcases applyFocus_taken { s with queue := rest } waits with
          eq | ⟨camera, preview, -, -, ⟨overflows, -⟩ | ⟨request, -, eq⟩⟩
        · rw [eq] at crashed
          cases idle.symm.trans crashed
        · exact ⟨tap, rfl, fun computes => computes preview _ _ overflows⟩
        · rw [eq] at crashed
          cases crashed
    · exact absurd crashed (crashed_execute (s := { s with queue := rest }) idle focuses)
  | finish idle queue unsent =>
    unfold beginClose at crashed
    split at crashed <;> cases crashed
  | forgotten routine facing last stage steps => cases last <;> cases crashed
  | worked routine next works stage steps =>
    cases crashed.symm.trans (s.resume_returned routine works).idle
  | missing | refused | acquired | called | installed => cases crashed

/-- The executor makes no taps. -/
theorem tap_of_turn (turn : Turn s t) : t.tap = s.tap ∨ t.tap = none := by
  cases turn with
  | take c rest idle queue =>
    by_cases focuses : c = .applyFocus
    · subst focuses
      exact .inr (tap_applyFocus _)
    · exact .inl (tap_execute _ focuses)
  | finish idle queue unsent => exact .inl (tap_beginClose s true)
  | missing facing request stage absent | refused facing request stage present =>
    rw [failOpen, withdraw_eq]
    exact .inl rfl
  | acquired | called | installed => exact .inl rfl
  | forgotten => exact .inr rfl
  | worked routine next works stage steps => exact .inl (s.tap_resume routine works)

/-- What was seen of taps tells of the one that waits, and of the one that took the executor down. -/
structure Tapped (s : CameraSystem (Simulator Ticket)) (seen : List Tap) : Prop where
  waits : ∀ tap, s.tap = some tap → tap ∈ seen
  crashed : s.executor.stage = .crashed →
    ∃ tap ∈ seen, ¬s.settings.focusMapper.Computes tap

theorem Tapped.of_turn {seen : List Tap} (h : s.Tapped seen) (turn : Turn s t) :
    t.Tapped seen := by
  refine ⟨fun tap waits => ?_, fun crashed => ?_⟩
  · rcases tap_of_turn turn with same | none
    · exact h.waits tap (same ▸ waits)
    · cases none.symm.trans waits
  · obtain ⟨tap, waits, overflows⟩ := crashed_of_turn turn crashed
    exact ⟨tap, h.waits tap waits, settings_turn turn ▸ overflows⟩

theorem Tapped.move {seen : List Tap} (h : s.Tapped seen) (secured : s.Secured held) {m : Move}
    (enabled : s.enabled m = true) : (s.move m).Tapped (seen ++ (s.taps? m).toList) := by
  by_cases own : m = .task .executor
  · subst own
    exact (List.append_nil seen).symm ▸ h.of_turn (secured.turn enabled)
  have same := undisturbed_move (s := s) own
  refine ⟨fun tap waits => ?_, fun crashed => ?_⟩
  · by_cases asks : ∃ tap, m = .request (.focusOn tap)
    · obtain ⟨made, rfl⟩ := asks
      change (s.focusOn made).2.tap = some tap at waits
      rcases s.focusOn_cases made with ⟨-, refused⟩ | ⟨camera, -, -, -, kept, -⟩
      · rw [refused] at waits
        exact List.mem_append_left _ (h.waits tap waits)
      · cases kept.symm.trans waits
        exact List.mem_append_right _ (List.mem_singleton_self _)
    · rw [s.tap_move_of_other own fun tap eq => asks ⟨tap, eq⟩] at waits
      exact List.mem_append_left _ (h.waits tap waits)
  · rw [same.executor] at crashed
    rw [same.settings]
    obtain ⟨tap, mem, overflows⟩ := h.crashed crashed
    exact ⟨tap, List.mem_append_left _ mem, overflows⟩

/-- If the executor has crashed, the areas of one of the taps of the run cannot be computed for some
preview. -/
theorem tapped_of_crashed {settings : Settings} {cameras : List CameraSpec} {capacity : Nat}
    {facing : Facing} {moves : List Move}
    (run : (ofCameras settings cameras capacity facing).run? moves = some t)
    (crashed : t.executor.stage = .crashed) :
    ∃ tap, .request (.focusOn tap) ∈ moves ∧ ¬settings.focusMapper.Computes tap := by
  have start := secured_ofCameras settings cameras capacity facing
  obtain ⟨-, tapped⟩ := run?_notes taps?
    (P := fun u seen => (∃ held, u.Secured held) ∧ u.Tapped seen)
    (fun u m seen ⟨⟨_, secured⟩, tapped⟩ enabled =>
      ⟨secured.move enabled, tapped.move secured enabled⟩) run ⟨⟨none, start⟩, nofun, nofun⟩
  obtain ⟨tap, mem, overflows⟩ := tapped.crashed crashed
  rw [settings_of_run? start run] at overflows
  obtain ⟨before, m, after, u, rfl, -, -, made, -⟩ := mem_along run mem
  refine ⟨tap, ?_, overflows⟩
  unfold taps? at made
  split at made
  · cases made
    simp
  · cases made

end CameraSystem

end Viewfinder
