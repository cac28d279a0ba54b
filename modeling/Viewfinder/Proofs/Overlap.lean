import Mathlib.Algebra.Group.Int.Defs
import Viewfinder.Geometry.Rect

/-!
# The common part of two rectangles

`common a b` has the inner ones of the edges of `a` and `b`, and covers what both cover. Whether
that is anything, `intersect?` finds from its sides, as long as these do not overflow (`Measured`).
With a rectangle at the origin they never do.
-/

namespace Viewfinder

namespace Rect

variable {a b r : Rect} {x y : Int}

theorem toInt_max (m n : Int32) : (max m n).toInt = max m.toInt n.toInt := by
  rw [show max m n = if m ≤ n then n else m from rfl]
  split
  · next le => exact (Int.max_eq_right (Int32.le_iff_toInt_le.1 le)).symm
  · next lt =>
    rw [Int32.le_iff_toInt_le] at lt
    omega

theorem toInt_min (m n : Int32) : (min m n).toInt = min m.toInt n.toInt := by
  rw [show min m n = if m ≤ n then m else n from rfl]
  split
  · next le => exact (Int.min_eq_left (Int32.le_iff_toInt_le.1 le)).symm
  · next lt =>
    rw [Int32.le_iff_toInt_le] at lt
    omega

/-- A difference that has a place in 32 bits is the one of the unbounded numbers. -/
theorem toInt_sub {m n : Int32} (low : -2 ^ 31 ≤ m.toInt - n.toInt)
    (high : m.toInt - n.toInt < 2 ^ 31) : (m - n).toInt = m.toInt - n.toInt := by
  rw [Int32.toInt_sub, Int.bmod_eq_of_le (by omega) (by omega)]

theorem toInt_add {m n : Int32} (low : -2 ^ 31 ≤ m.toInt + n.toInt)
    (high : m.toInt + n.toInt < 2 ^ 31) : (m + n).toInt = m.toInt + n.toInt := by
  rw [Int32.toInt_add, Int.bmod_eq_of_le (by omega) (by omega)]

theorem covers_common : (common a b).Covers x y ↔ a.Covers x y ∧ b.Covers x y := by
  simp only [Covers, common, toInt_max, toInt_min]
  omega

theorem Measured.isEmpty_eq (measured : r.Measured) : r.isEmpty =
    some (!decide (r.left.toInt < r.right.toInt ∧ r.top.toInt < r.bottom.toInt)) := by
  rw [isEmpty_eq_some_iff, Bool.not_eq_false', decide_eq_true_eq]
  exact ⟨measured, by omega⟩

theorem exists_covers_iff :
    (∃ x y, r.Covers x y) ↔ r.left.toInt < r.right.toInt ∧ r.top.toInt < r.bottom.toInt := by
  constructor
  · rintro ⟨x, y, covers⟩
    unfold Covers at covers
    omega
  · rintro ⟨wide, high⟩
    exact ⟨r.left.toInt, r.top.toInt, by unfold Covers; omega⟩

/-- The sides of a rectangle that does not reach below the origin do not overflow. -/
theorem Ordered.measured (ordered : r.Ordered) (left : 0 ≤ r.left.toInt)
    (top : 0 ≤ r.top.toInt) : r.Measured := by
  obtain ⟨wide, high⟩ := ordered
  rw [Int32.le_iff_toInt_le] at wide high
  have right := r.right.toInt_lt
  have bottom := r.bottom.toInt_lt
  exact ⟨by omega, by omega⟩

theorem Ordered.exists_sides (ordered : r.Ordered) (left : 0 ≤ r.left.toInt)
    (top : 0 ≤ r.top.toInt) : ∃ wide high, r.width = some wide ∧ r.height = some high ∧
      wide.toInt = r.right.toInt - r.left.toInt ∧ high.toInt = r.bottom.toInt - r.top.toInt := by
  obtain ⟨wide, high⟩ := ordered
  rw [Int32.le_iff_toInt_le] at wide high
  have right := r.right.toInt_lt
  have bottom := r.bottom.toInt_lt
  obtain ⟨w, width, inWidth⟩ := (checked_cases (r.right.toInt - r.left.toInt)).resolve_right
    fun out => out.2 (by omega)
  obtain ⟨h, height, inHeight⟩ := (checked_cases (r.bottom.toInt - r.top.toInt)).resolve_right
    fun out => out.2 (by omega)
  exact ⟨w, h, width, height, inWidth, inHeight⟩

/-- The common part is given if there is a common point. -/
theorem Measured.intersect?_cases (measured : (common a b).Measured) :
    (¬∃ x y, a.Covers x y ∧ b.Covers x y) ∧ a.intersect? b = some none ∨
      (∃ x y, a.Covers x y ∧ b.Covers x y) ∧ a.intersect? b = some (some (common a b)) := by
  have extent := exists_covers_iff (r := common a b)
  simp only [covers_common] at extent
  rw [intersect?, measured.isEmpty_eq, extent]
  by_cases shared : (common a b).left.toInt < (common a b).right.toInt ∧
    (common a b).top.toInt < (common a b).bottom.toInt <;> simp [shared]

/-- A rectangle from the origin, whose sides are its right and bottom edges. -/
structure Anchored (r : Rect) : Prop where
  left : r.left = 0
  top : r.top = 0
  right : 0 ≤ r.right.toInt
  bottom : 0 ≤ r.bottom.toInt

theorem Anchored.measured_common (anchored : b.Anchored) (ordered : a.Ordered) :
    (common a b).Measured := by
  obtain ⟨wide, high⟩ := ordered
  rw [Int32.le_iff_toInt_le] at wide high
  have zero : (0 : Int32).toInt = 0 := rfl
  have right := anchored.right
  have bottom := anchored.bottom
  have := a.right.le_toInt
  have := a.right.toInt_lt
  have := a.bottom.le_toInt
  have := a.bottom.toInt_lt
  constructor <;>
    simp only [common, toInt_max, toInt_min, anchored.left, anchored.top, zero] <;> omega

/-- What lies within a rectangle is all in common with it. -/
theorem intersect?_of_contains (within : b.contains r = true) (extent : r.isEmpty = some false) :
    r.intersect? b = some (some r) := by
  simp only [contains, Bool.and_eq_true, decide_eq_true_eq, Int32.le_iff_toInt_le] at within
  have same : common r b = r := by
    cases r
    simp only [common, mk.injEq, ← Int32.toInt_inj, toInt_max, toInt_min]
    dsimp only at within
    omega
  rw [intersect?, same, extent]
  rfl

end Rect

end Viewfinder
