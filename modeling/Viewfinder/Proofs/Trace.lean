import Viewfinder.Proofs.Run

/-!
# What happens along a run

A run is looked at move by move: `along` lists what is seen at each move in the state in which it is
made. What is seen was seen at one move (`mem_along`), and a property of the state and of all that
was seen so far is kept by a run if it is kept by each move (`run?_records`).
-/

namespace Viewfinder.CameraSystem

variable {σ : Type} [CameraService σ] [FaultInjection σ] {s t u : CameraSystem σ}
  {α β : Type} {look : CameraSystem σ → Move → Option α}

/-- Everything that `look` sees along some moves. -/
def along (look : CameraSystem σ → Move → Option α) (s : CameraSystem σ) : List Move → List α
  | [] => []
  | m :: rest => (look s m).toList ++ (s.move m).along look rest

theorem run?_append {before after : List Move} :
    s.run? (before ++ after) = (s.run? before).bind fun u => u.run? after := by
  induction before generalizing s with
  | nil => rfl
  | cons m rest ih =>
    simp only [List.cons_append, run?]
    split
    · exact ih
    · rfl

/-- A run can be cut anywhere. -/
theorem run?_append_eq_some {before after : List Move} :
    s.run? (before ++ after) = some t ↔ ∃ u, s.run? before = some u ∧ u.run? after = some t := by
  rw [run?_append, Option.bind_eq_some_iff]

theorem along_append {before : List Move} (run : s.run? before = some u) (after : List Move) :
    s.along look (before ++ after) = s.along look before ++ u.along look after := by
  induction before generalizing s with
  | nil =>
    cases run
    rfl
  | cons m rest ih =>
    obtain ⟨-, run⟩ := run?_cons_eq_some.1 run
    simp [along, ih run]

/-- What is seen along a run is seen at one of its moves. -/
theorem mem_along {moves : List Move} (run : s.run? moves = some t) {a : α}
    (mem : a ∈ s.along look moves) :
    ∃ before m after u, moves = before ++ m :: after ∧ s.run? before = some u ∧
      u.enabled m = true ∧ look u m = some a ∧ (u.move m).run? after = some t := by
  induction moves generalizing s with
  | nil => cases mem
  | cons m rest ih =>
    obtain ⟨allowed, later⟩ := run?_cons_eq_some.1 run
    rcases List.mem_append.1 mem with now | then_
    · exact ⟨[], m, rest, s, rfl, rfl, allowed, Option.mem_toList.1 now, later⟩
    · obtain ⟨before, m', after, u, rfl, run', rest'⟩ := ih later then_
      exact ⟨m :: before, m', after, u, rfl, run?_cons_eq_some.2 ⟨allowed, run'⟩, rest'⟩

/-- What each move keeps, of the state and of what was seen so far, is kept by a run. -/
theorem run?_records {look' : CameraSystem σ → Move → Option β}
    {P : CameraSystem σ → List α → List β → Prop}
    (step : ∀ s m seen seen', P s seen seen' → s.enabled m = true →
      P (s.move m) (seen ++ (look s m).toList) (seen' ++ (look' s m).toList))
    {moves : List Move} (run : s.run? moves = some t) {seen : List α} {seen' : List β}
    (start : P s seen seen') :
    P t (seen ++ s.along look moves) (seen' ++ s.along look' moves) := by
  induction moves generalizing s seen seen' with
  | nil =>
    cases run
    simpa [along] using start
  | cons m rest ih =>
    obtain ⟨allowed, run⟩ := run?_cons_eq_some.1 run
    simpa [along] using ih run (step s m seen seen' start allowed)

/-- The same of what a single look sees. -/
theorem run?_notes (look : CameraSystem σ → Move → Option α) {P : CameraSystem σ → List α → Prop}
    (step : ∀ s m seen, P s seen → s.enabled m = true → P (s.move m) (seen ++ (look s m).toList))
    {moves : List Move} (run : s.run? moves = some t) (start : P s []) :
    P t (s.along look moves) := by
  have kept : P t ([] ++ s.along look moves) :=
    @run?_records σ _ _ s t α α look look (fun u seen _ => P u seen)
      (fun u m seen _ => step u m seen) moves run [] [] start
  rwa [List.nil_append] at kept

end Viewfinder.CameraSystem
