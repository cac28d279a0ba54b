import Mathlib.Algebra.Group.Nat.Defs
import Viewfinder.Proofs.Overlap

/-!
# Arithmetic in machine words

An operation on words of a fixed width is right as long as its result is one of them. `counted` gives
the result of one on 64 bits then, as `checked` and `unsigned` do, and nothing where it would wrap.
-/

namespace Viewfinder

theorem add_eq_of_toInt {m n r : Int32} (h : r.toInt = m.toInt + n.toInt) : m + n = r := by
  have low := r.le_toInt
  have high := r.toInt_lt
  rw [← Int32.toInt_inj, Rect.toInt_add (by omega) (by omega), h]

/-- The result of an operation on 64-bit words, if it is one of them. -/
def counted (n : Nat) : Option UInt64 := if n < 2 ^ 64 then some (.ofNat n) else none

theorem counted_eq_some_iff {n : Nat} {r : UInt64} : counted n = some r ↔ r.toNat = n := by
  unfold counted
  split
  · next fits =>
    rw [Option.some.injEq, ← UInt64.toNat_inj, UInt64.toNat_ofNat', Nat.mod_eq_of_lt fits, eq_comm]
  · next out =>
    have high := r.toNat_lt
    simp only [reduceCtorEq, false_iff]
    omega

theorem exists_toNat_eq {n : Nat} (fits : n < 2 ^ 64) : ∃ r : UInt64, r.toNat = n :=
  ⟨.ofNat n, by rw [UInt64.toNat_ofNat', Nat.mod_eq_of_lt fits]⟩

section

variable {a b r : UInt32} {n : Int}

theorem unsigned_eq_some_iff : unsigned n = some r ↔ (r.toNat : Int) = n := by
  unfold unsigned
  split
  · next fits =>
    rw [Option.some.injEq, ← UInt32.toNat_inj, UInt32.toNat_ofNat']
    omega
  · next out =>
    have high := r.toNat_lt
    simp only [reduceCtorEq, false_iff]
    omega

theorem unsigned_add (fits : a.toNat + b.toNat < 2 ^ 32) :
    unsigned (a.toNat + b.toNat) = some (a + b) := by
  rw [unsigned_eq_some_iff, UInt32.toNat_add, Nat.mod_eq_of_lt fits]
  omega

theorem unsigned_sub (le : b.toNat ≤ a.toNat) : unsigned (a.toNat - b.toNat) = some (a - b) := by
  rw [unsigned_eq_some_iff, UInt32.toNat_sub_of_le _ _ (UInt32.le_iff_toNat_le.2 le)]
  omega

theorem unsigned_mul (fits : a.toNat * b.toNat < 2 ^ 32) :
    unsigned (a.toNat * b.toNat) = some (a * b) := by
  rw [unsigned_eq_some_iff, UInt32.toNat_mul, Nat.mod_eq_of_lt fits]
  omega

theorem toNat_max (a b : UInt32) : (max a b).toNat = max a.toNat b.toNat := by
  rw [show max a b = if a ≤ b then b else a from rfl]
  split
  · next le => exact (Nat.max_eq_right (UInt32.le_iff_toNat_le.1 le)).symm
  · next lt =>
    rw [UInt32.le_iff_toNat_le] at lt
    omega

end

end Viewfinder
