/-!
# Checked arithmetic

Sums and differences of machine integers are computed with overflow checks: one that leaves the
range of its type takes down whoever asked for it.
-/

namespace Viewfinder

/-- What a computation comes to, or nothing if it crashed on the way. -/
abbrev Checked (α : Type) := Option α

/-- The result of an operation on 32-bit integers, if it is one of them. -/
def checked (n : Int) : Checked Int32 :=
  if -2147483648 ≤ n ∧ n < 2147483648 then some (Int32.ofInt n) else none

/-- The result of an operation on 32-bit words, if it is one of them. -/
def unsigned (n : Int) : Checked UInt32 :=
  if 0 ≤ n ∧ n < 4294967296 then some (.ofNat n.toNat) else none

theorem checked_eq_some_iff {n : Int} {r : Int32} : checked n = some r ↔ r.toInt = n := by
  unfold checked
  split
  · next fits =>
    rw [Option.some.injEq, ← Int32.toInt_inj, Int32.toInt_ofInt_of_le (by omega) (by omega),
      eq_comm]
  · next out =>
    have low := r.le_toInt
    have high := r.toInt_lt
    simp only [reduceCtorEq, false_iff]
    omega

theorem checked_cases (n : Int) :
    (∃ r, checked n = some r ∧ r.toInt = n) ∨
      checked n = none ∧ ¬(-2147483648 ≤ n ∧ n < 2147483648) := by
  cases made : checked n with
  | none =>
    refine .inr ⟨rfl, fun fits => ?_⟩
    rw [checked, if_pos fits] at made
    cases made
  | some r => exact .inl ⟨r, rfl, checked_eq_some_iff.1 made⟩

end Viewfinder
