import Viewfinder.Proofs.Overlap

/-!
# The greatest common rectangle

`intersect?` tells whether two rectangles have anything in common from the sides of `common a b`,
which are differences of edges of different rectangles. Far from one another, or where both are wide
enough, 32 bits do not hold such a difference, and the subtraction overflows. Where the differences
are held (`Near`) the answer is the greatest rectangle within both, if there is one of some extent.
-/

namespace Viewfinder

namespace Rect

variable {a b c : Rect}

/-- What two rectangles have in common along the horizontal axis; below zero, their distance. -/
def across (a b : Rect) : Int := min a.right.toInt b.right.toInt - max a.left.toInt b.left.toInt

/-- The same along the vertical axis. -/
def down (a b : Rect) : Int := min a.bottom.toInt b.bottom.toInt - max a.top.toInt b.top.toInt

/-- 32 bits hold the sides that are looked at: the height is if there is some width. -/
structure Near (a b : Rect) : Prop where
  width : -2 ^ 31 ≤ across a b ∧ across a b < 2 ^ 31
  height : 0 < across a b → -2 ^ 31 ≤ down a b ∧ down a b < 2 ^ 31

/-! ## The sides of the common part -/

theorem across_eq : (common a b).right.toInt - (common a b).left.toInt = across a b := by
  simp only [common, toInt_max, toInt_min, across]

theorem down_eq : (common a b).bottom.toInt - (common a b).top.toInt = down a b := by
  simp only [common, toInt_max, toInt_min, down]

theorem measured_common_iff : (common a b).Measured ↔ Near a b := by
  constructor
  · rintro ⟨width, height⟩
    rw [across_eq] at width height
    rw [down_eq] at height
    exact ⟨width, height⟩
  · rintro ⟨width, height⟩
    rw [← across_eq] at width height
    rw [← down_eq] at height
    exact ⟨width, height⟩

theorem common_comm (a b : Rect) : common a b = common b a := by
  simp only [common, mk.injEq, ← Int32.toInt_inj, toInt_max, toInt_min]
  omega

theorem intersect?_comm (a b : Rect) : a.intersect? b = b.intersect? a := by
  rw [intersect?, intersect?, common_comm]

theorem isSome_intersect?_iff : (a.intersect? b).isSome ↔ Near a b := by
  rw [← measured_common_iff, intersect?, Option.isSome_map, Option.isSome_iff_exists]
  constructor
  · rintro ⟨empty, told⟩
    exact (isEmpty_eq_some_iff.1 told).1
  · intro measured
    exact ⟨_, measured.isEmpty_eq⟩

theorem exists_covers_both_iff :
    (∃ x y, a.Covers x y ∧ b.Covers x y) ↔ 0 < across a b ∧ 0 < down a b := by
  simp only [← covers_common, exists_covers_iff, ← across_eq, ← down_eq]
  omega

theorem contains_common_iff :
    (common a b).contains c = true ↔ a.contains c = true ∧ b.contains c = true := by
  simp only [contains, common, Bool.and_eq_true, decide_eq_true_eq, Int32.le_iff_toInt_le,
    toInt_max, toInt_min]
  omega

/-- What lies within both of two rectangles and has some extent, they cover both. -/
theorem exists_covers_of_contains (wide : c.left < c.right) (high : c.top < c.bottom)
    (inA : a.contains c = true) (inB : b.contains c = true) :
    ∃ x y, a.Covers x y ∧ b.Covers x y := by
  have inner := contains_common_iff.2 ⟨inA, inB⟩
  simp only [contains, Bool.and_eq_true, decide_eq_true_eq, Int32.le_iff_toInt_le] at inner
  rw [Int32.lt_iff_toInt_lt] at wide high
  rw [exists_covers_both_iff, ← across_eq, ← down_eq]
  omega

/-- No subtraction of `intersect?` overflows exactly where the rectangles are near, in whichever
order they are given. There it gives the greatest rectangle within both: something if they share a
point, and then what contains all that has some extent and lies within both. Rectangles are near
where one of them begins at the origin. -/
theorem intersect?_greatest (a b : Rect) :
    ((a.intersect? b).isSome ↔ Near a b) ∧
    a.intersect? b = b.intersect? a ∧
    (∀ answer, a.intersect? b = some answer →
      (answer.isSome ↔ ∃ x y, a.Covers x y ∧ b.Covers x y) ∧
      (∀ r, answer = some r →
        r.left < r.right ∧ r.top < r.bottom ∧ a.contains r = true ∧ b.contains r = true ∧
        ∀ c : Rect, c.left < c.right → c.top < c.bottom →
          (a.contains c = true ∧ b.contains c = true ↔ r.contains c = true)) ∧
      (answer = none → ∀ c : Rect, c.left < c.right → c.top < c.bottom →
        ¬(a.contains c = true ∧ b.contains c = true))) ∧
    (a.Ordered → b.Anchored → Near a b) := by
  refine ⟨isSome_intersect?_iff, intersect?_comm a b, fun answer given => ?_,
    fun ordered anchored => measured_common_iff.1 (anchored.measured_common ordered)⟩
  have near := isSome_intersect?_iff.1 (Option.isSome_iff_exists.2 ⟨answer, given⟩)
  rcases (measured_common_iff.2 near).intersect?_cases with ⟨apart, none_⟩ | ⟨shared, some_⟩
  · obtain rfl := Option.some.inj (none_.symm.trans given)
    refine ⟨by simp only [Option.isSome_none, Bool.false_eq_true, apart], nofun,
      fun _ c wide high within => apart ?_⟩
    exact exists_covers_of_contains wide high within.1 within.2
  · obtain rfl := Option.some.inj (some_.symm.trans given)
    refine ⟨by simp only [Option.isSome_some, shared], fun r same => ?_, nofun⟩
    obtain rfl := Option.some.inj same
    obtain ⟨wide, high⟩ := exists_covers_both_iff.1 shared
    rw [← across_eq] at wide
    rw [← down_eq] at high
    obtain ⟨inA, inB⟩ := contains_common_iff.1 (show (common a b).contains (common a b) = true by
      simp [contains])
    refine ⟨?_, ?_, inA, inB, fun c _ _ => contains_common_iff.symm⟩ <;>
      rw [Int32.lt_iff_toInt_lt] <;> omega

/-- A rectangle that reaches over two edges of a frame. -/
theorem intersect?_greatest_overlapping :
    Near ⟨0, 0, 100, 100⟩ ⟨-10, 50, 50, 150⟩ ∧
      (⟨0, 0, 100, 100⟩ : Rect).intersect? ⟨-10, 50, 50, 150⟩ = some (some ⟨0, 50, 50, 100⟩) ∧
      (⟨0, 0, 100, 100⟩ : Rect).contains ⟨0, 50, 50, 100⟩ = true := by
  have cut : (⟨0, 0, 100, 100⟩ : Rect).intersect? ⟨-10, 50, 50, 150⟩ =
      some (some ⟨0, 50, 50, 100⟩) := by
    decide
  obtain ⟨told, -, exact_, -⟩ := intersect?_greatest ⟨0, 0, 100, 100⟩ ⟨-10, 50, 50, 150⟩
  exact ⟨told.1 (by decide), cut, ((exact_ _ cut).2.1 _ rfl).2.2.1⟩

/-- For two dots at the two ends of the axis the width of the common part overflows, though they
have no point in common; so it does for the strip from one end to the other and itself, which have
all of theirs. -/
theorem intersect?_farApart :
    let first : Rect := ⟨-2147483648, 0, -2147483647, 1⟩
    let last : Rect := ⟨2147483646, 0, 2147483647, 1⟩
    let strip : Rect := ⟨-2147483648, 0, 2147483647, 1⟩
    first.Ordered ∧ last.Ordered ∧ strip.Ordered ∧
      first.intersect? last = none ∧ (¬∃ x y, first.Covers x y ∧ last.Covers x y) ∧
      strip.intersect? strip = none ∧ ∃ x y, strip.Covers x y ∧ strip.Covers x y := by
  refine ⟨by decide, by decide, by decide, by decide, ?_, by decide, 0, 0, by decide, by decide⟩
  rw [exists_covers_both_iff]
  decide

end Rect

end Viewfinder
