import Mathlib.Algebra.Order.Field.Power
import Mathlib.Tactic.GCongr
import Mathlib.Tactic.Linarith
import Mathlib.Tactic.NormNum
import Mathlib.Tactic.Positivity
import Mathlib.Tactic.Ring
import Viewfinder.Numeric.Binary

/-!
# How exact binary arithmetic is

Rounding takes a number to a multiple of the last place that its format keeps of it (`nearest`). So
it misses it by half of that place at most, and it does not cross a whole number unless the places
that are kept are coarser. For single precision that bounds what a product or a quotient misses by a
number of roundings (`Close`), as long as the results are neither tiny nor huge (`Usual`).
-/

namespace Viewfinder

namespace Rounding

variable {q : Rat} {n : Int}

theorem abs_toEven_sub_le (q : Rat) : |(toEven q : Rat) - q| ≤ 1 / 2 := by
  have below := Rat.floor_le q
  have above := Rat.lt_floor_add_one q
  push_cast at above
  rw [abs_le]
  unfold toEven
  dsimp only
  split_ifs <;> push_cast <;> constructor <;> linarith

theorem le_toEven (h : (n : Rat) ≤ q) : n ≤ toEven q := by
  have floor : n ≤ q.floor := Rat.le_floor_iff.2 h
  unfold toEven
  dsimp only
  split_ifs <;> omega

theorem toEven_le (h : q ≤ n) : toEven q ≤ n := by
  have error := abs_le.1 (abs_toEven_sub_le q)
  have : (toEven q : Rat) < n + 1 := by linarith
  exact_mod_cast Int.lt_add_one_iff.1 (by exact_mod_cast this)

/-- An even number takes what is up to a half away. -/
theorem toEven_eq_of_even (even : n % 2 = 0) (h : |q - n| ≤ 1 / 2) : toEven q = n := by
  obtain ⟨low, high⟩ := abs_le.1 h
  rcases le_or_gt (n : Rat) q with above | below
  · have floor : q.floor = n := by
      apply le_antisymm
      · exact Int.lt_add_one_iff.1 (Rat.floor_lt_iff.2 (by push_cast; linarith))
      · exact Rat.le_floor_iff.2 above
    unfold toEven
    dsimp only
    rw [floor]
    split_ifs <;> first | rfl | linarith
  · have floor : q.floor = n - 1 := by
      apply le_antisymm
      · exact Int.le_sub_one_of_lt (Rat.floor_lt_iff.2 below)
      · exact Rat.le_floor_iff.2 (by push_cast; linarith)
    unfold toEven
    dsimp only
    rw [floor]
    push_cast
    split_ifs <;> first | omega | (exfalso; linarith)

theorem towardZero_of_nonneg (h : 0 ≤ q) : towardZero q = q.floor := if_neg (not_lt.2 h)

theorem towardZero_of_neg (h : q < 0) : towardZero q = -(-q).floor := if_pos h

theorem le_towardZero (h : (n : Rat) ≤ q) : n ≤ towardZero q := by
  rcases le_or_gt 0 q with nonneg | negative
  · rw [towardZero_of_nonneg nonneg]
    exact Rat.le_floor_iff.2 h
  · have below := Rat.floor_le (-q)
    rw [towardZero_of_neg negative, ← Int.cast_le (R := Rat), Int.cast_neg]
    linarith

theorem towardZero_le (h : q ≤ n) : towardZero q ≤ n := by
  rcases le_or_gt 0 q with nonneg | negative
  · rw [towardZero_of_nonneg nonneg, ← Int.cast_le (R := Rat)]
    exact (Rat.floor_le q).trans h
  · rw [towardZero_of_neg negative, neg_le]
    exact Rat.le_floor_iff.2 (by push_cast; linarith)

theorem towardZero_lt (positive : 0 < n) (h : q < n) : towardZero q < n := by
  rcases le_or_gt 0 q with nonneg | negative
  · rw [towardZero_of_nonneg nonneg]
    exact Rat.floor_lt_iff.2 h
  · have below : towardZero q ≤ 0 := towardZero_le (by exact_mod_cast negative.le)
    omega

theorem towardZero_le_self (h : 0 ≤ q) : (towardZero q : Rat) ≤ q := by
  rw [towardZero_of_nonneg h]
  exact Rat.floor_le q

theorem abs_towardZero_sub_lt (q : Rat) : |(towardZero q : Rat) - q| < 1 := by
  rw [abs_lt]
  rcases le_or_gt 0 q with nonneg | negative
  · have below := Rat.floor_le q
    have above := Rat.lt_floor_add_one q
    push_cast at above
    rw [towardZero_of_nonneg nonneg]
    constructor <;> linarith
  · have below := Rat.floor_le (-q)
    have above := Rat.lt_floor_add_one (-q)
    push_cast at above
    rw [towardZero_of_neg negative]
    push_cast
    constructor <;> linarith

/-- What is above minus one is not cut to a negative number. -/
theorem towardZero_nonneg (h : -1 < q) : 0 ≤ towardZero q := by
  rcases le_or_gt 0 q with nonneg | negative
  · exact le_towardZero (by exact_mod_cast nonneg)
  · have below : (-q).floor < 1 := Rat.floor_lt_iff.2 (by push_cast; linarith)
    rw [towardZero_of_neg negative]
    omega

end Rounding

/-- The logarithm is that of the power of two below. -/
theorem floorLog2_spec {q : Rat} (hq : 0 < q) :
    (2 : Rat) ^ floorLog2 q ≤ q ∧ q < (2 : Rat) ^ (floorLog2 q + 1) := by
  have den : (0 : Rat) < q.den := by exact_mod_cast q.den_pos
  have num : (q.num.natAbs : Rat) = q * q.den := by
    rw [Nat.cast_natAbs, abs_of_pos (Rat.num_pos.2 hq), Rat.mul_den_eq_num]
  have positive : q.num.natAbs ≠ 0 := Int.natAbs_ne_zero.2 (Rat.num_pos.2 hq).ne'
  have numLow : (2 : Rat) ^ q.num.natAbs.log2 ≤ q * q.den := by
    rw [← num]
    exact_mod_cast Nat.log2_self_le positive
  have numHigh : q * q.den < (2 : Rat) ^ (q.num.natAbs.log2 + 1) := by
    rw [← num]
    exact_mod_cast Nat.lt_log2_self
  have denLow : (2 : Rat) ^ q.den.log2 ≤ q.den := by
    exact_mod_cast Nat.log2_self_le q.den_pos.ne'
  have denHigh : (q.den : Rat) < (2 : Rat) ^ (q.den.log2 + 1) := by
    exact_mod_cast Nat.lt_log2_self
  have power (m : Nat) : (0 : Rat) < 2 ^ m := by positivity
  -- the quotient of the leading powers is at most one place off
  have high : q < (2 : Rat) ^ ((q.num.natAbs.log2 : Int) - q.den.log2 + 1) := by
    rw [show (q.num.natAbs.log2 : Int) - q.den.log2 + 1 =
      ((q.num.natAbs.log2 + 1 : Nat) : Int) - (q.den.log2 : Nat) by push_cast; ring,
      zpow_sub₀ two_ne_zero, zpow_natCast, zpow_natCast, lt_div_iff₀ (power _)]
    calc q * 2 ^ q.den.log2 ≤ q * q.den := by gcongr
      _ < 2 ^ (q.num.natAbs.log2 + 1) := numHigh
  have low : (2 : Rat) ^ ((q.num.natAbs.log2 : Int) - q.den.log2 - 1) < q := by
    rw [show (q.num.natAbs.log2 : Int) - q.den.log2 - 1 =
      (q.num.natAbs.log2 : Int) - ((q.den.log2 + 1 : Nat) : Int) by push_cast; ring,
      zpow_sub₀ two_ne_zero, zpow_natCast, zpow_natCast, div_lt_iff₀ (power _)]
    calc (2 : Rat) ^ q.num.natAbs.log2 ≤ q * q.den := numLow
      _ < q * 2 ^ (q.den.log2 + 1) := by gcongr
  unfold floorLog2
  dsimp only
  split_ifs with reached
  · exact ⟨reached, high⟩
  · rw [sub_add_cancel]
    exact ⟨low.le, not_le.1 reached⟩

namespace Binary

variable {f : BinaryFormat} {q : Rat} {n : Int}

/-- The multiple of the last place that `q` is rounded to. -/
def nearest (f : BinaryFormat) (q : Rat) : Rat :=
  Rounding.toEven (q / 2 ^ place f |q|) * 2 ^ place f |q|

@[simp] theorem nearest_zero (f : BinaryFormat) : nearest f 0 = 0 := by
  have zero : Rounding.toEven 0 = 0 :=
    le_antisymm (Rounding.toEven_le (by simp)) (Rounding.le_toEven (by simp))
  rw [nearest, zero_div, zero, Int.cast_zero, zero_mul]

theorem magnitude_eq (q : Rat) : (if q < 0 then -q else q) = |q| := by
  split_ifs with negative
  · exact (abs_of_neg negative).symm
  · exact (abs_of_nonneg (not_lt.1 negative)).symm

theorem rat?_round (within : |nearest f q| < f.bound) :
    (round f q).rat? = some (nearest f q) := by
  obtain ⟨low, high⟩ := abs_lt.1 within
  unfold round
  rw [magnitude_eq]
  dsimp only
  rw [← nearest, if_neg (not_le.2 high), if_neg (not_le.2 low)]
  split_ifs with zero small negative
  · rw [zero, rat?, nearest_zero]
  · rw [small, rat?]
  · rw [small, rat?]
  · rfl

/-- Half of the last place is missed at most. -/
theorem abs_nearest_sub_le (f : BinaryFormat) (q : Rat) :
    |nearest f q - q| ≤ 2 ^ place f |q| / 2 := by
  have unit : (0 : Rat) < 2 ^ place f |q| := by positivity
  have error := Rounding.abs_toEven_sub_le (q / 2 ^ place f |q|)
  have same : nearest f q - q =
      (Rounding.toEven (q / 2 ^ place f |q|) - q / 2 ^ place f |q|) * 2 ^ place f |q| := by
    rw [nearest, sub_mul, div_mul_cancel₀ _ unit.ne']
  rw [same, abs_mul, abs_of_pos unit]
  calc _ ≤ 1 / 2 * (2 : Rat) ^ place f |q| := by gcongr
    _ = 2 ^ place f |q| / 2 := by ring

theorem floorLog2_lt {k : Int} (hk : 0 ≤ k) (nonneg : 0 ≤ q) (h : q < 2 ^ k) : floorLog2 q < k := by
  rcases nonneg.eq_or_lt with rfl | positive
  · exact lt_of_lt_of_le (by decide) hk
  · exact (zpow_lt_zpow_iff_right₀ one_lt_two).1 ((floorLog2_spec positive).1.trans_lt h)

/-- The number below a power of two has its last place `precision` below that. -/
theorem place_le {k : Int} (hk : 0 ≤ k) (normal : f.minPlace ≤ k - f.precision) (h : |q| < 2 ^ k) :
    place f |q| ≤ k - f.precision := by
  have := floorLog2_lt hk (abs_nonneg q) h
  unfold place
  omega

/-- The last place of a number between two powers of two. -/
theorem place_eq {k : Int} (normal : f.minPlace ≤ k + 1 - f.precision)
    (low : (2 : Rat) ^ k ≤ q) (high : q < (2 : Rat) ^ (k + 1)) :
    place f |q| = k + 1 - f.precision := by
  have positive : 0 < q := lt_of_lt_of_le (by positivity) low
  obtain ⟨below, above⟩ := floorLog2_spec positive
  have power {a b : Int} := zpow_lt_zpow_iff_right₀ (one_lt_two (α := Rat)) (m := a) (n := b)
  have leading : floorLog2 q = k :=
    le_antisymm (Int.lt_add_one_iff.1 (power.1 (below.trans_lt high)))
      (Int.lt_add_one_iff.1 (power.1 (low.trans_lt above)))
  rw [abs_of_pos positive, place, leading]
  omega

theorem abs_nearest_sub_le_of_lt {k : Int} (hk : 0 ≤ k) (normal : f.minPlace ≤ k - f.precision)
    (h : |q| < 2 ^ k) : |nearest f q - q| ≤ 2 ^ (k - f.precision) / 2 := by
  have last := place_le hk normal h
  refine (abs_nearest_sub_le f q).trans (div_le_div_of_nonneg_right ?_ two_pos.le)
  exact zpow_le_zpow_right₀ one_le_two last

/-- An even multiple of the last place takes what is up to a half of it away. -/
theorem nearest_eq_of_even {k m : Int} (last : place f |q| = k) (even : m % 2 = 0)
    (near : |q - m * 2 ^ k| ≤ 2 ^ k / 2) : nearest f q = m * 2 ^ k := by
  have unit : (0 : Rat) < 2 ^ k := by positivity
  have ratio : |q / 2 ^ k - m| ≤ 1 / 2 := by
    have scaled : q / 2 ^ k - m = (q - m * 2 ^ k) / 2 ^ k := by
      rw [sub_div, mul_div_cancel_right₀ _ unit.ne']
    rw [scaled, abs_div, abs_of_pos unit, div_le_iff₀ unit]
    linarith
  rw [nearest, last, Rounding.toEven_eq_of_even even ratio]

/-- A number that is not too close to zero is missed by no more than a fixed part of it. -/
theorem abs_nearest_sub_le_of_normal (normal : 2 ^ (f.minPlace + f.precision - 1) ≤ |q|) :
    |nearest f q - q| ≤ |q| / 2 ^ f.precision := by
  have positive : 0 < |q| := lt_of_lt_of_le (by positivity) normal
  obtain ⟨low, high⟩ := floorLog2_spec positive
  have leading : f.minPlace + f.precision - 1 < floorLog2 |q| + 1 :=
    (zpow_lt_zpow_iff_right₀ one_lt_two).1 (normal.trans_lt high)
  have last : place f |q| = floorLog2 |q| + 1 - f.precision := by
    unfold place
    omega
  calc _ ≤ (2 : Rat) ^ place f |q| / 2 := abs_nearest_sub_le f q
    _ = 2 ^ floorLog2 |q| / 2 ^ f.precision := by
      rw [last, zpow_sub₀ two_ne_zero, zpow_add_one₀ two_ne_zero, zpow_natCast]
      ring
    _ ≤ |q| / 2 ^ f.precision := by gcongr

/-- Where the last place is no coarser than one, a whole number is a multiple of it. -/
theorem whole_eq (fine : place f |q| ≤ 0) (n : Int) :
    ∃ m : Int, (n : Rat) = m * 2 ^ place f |q| := by
  obtain ⟨k, hk⟩ : ∃ k : Nat, place f |q| = -k := ⟨(-place f |q|).toNat, by omega⟩
  refine ⟨n * 2 ^ k, ?_⟩
  rw [hk, zpow_neg, zpow_natCast]
  push_cast
  rw [mul_inv_cancel_right₀ (by positivity)]

theorem le_nearest (fine : place f |q| ≤ 0) (h : (n : Rat) ≤ q) : (n : Rat) ≤ nearest f q := by
  obtain ⟨m, multiple⟩ := whole_eq fine n
  have unit : (0 : Rat) < 2 ^ place f |q| := by positivity
  rw [multiple, nearest, mul_le_mul_iff_of_pos_right unit, Int.cast_le]
  exact Rounding.le_toEven ((le_div_iff₀ unit).2 (multiple ▸ h))

theorem nearest_le (fine : place f |q| ≤ 0) (h : q ≤ n) : nearest f q ≤ n := by
  obtain ⟨m, multiple⟩ := whole_eq fine n
  have unit : (0 : Rat) < 2 ^ place f |q| := by positivity
  rw [multiple, nearest, mul_le_mul_iff_of_pos_right unit, Int.cast_le]
  exact Rounding.toEven_le ((div_le_iff₀ unit).2 (multiple ▸ h))

/-- No number below the largest power of two is rounded to an infinity. -/
theorem rat?_round_of_lt (wide : 1 ≤ f.maxExponent) (h : |q| < 2 ^ f.maxExponent) :
    (round f q).rat? = some (nearest f q) := by
  have last : f.minPlace ≤ f.maxExponent - f.precision := by
    unfold BinaryFormat.minPlace
    omega
  have error := abs_nearest_sub_le_of_lt (k := f.maxExponent) (by omega) last (by exact_mod_cast h)
  have half : (2 : Rat) ^ ((f.maxExponent : Int) - f.precision) ≤ 2 ^ f.maxExponent := by
    rw [← zpow_natCast]
    exact zpow_le_zpow_right₀ one_le_two (by omega)
  have positive : (0 : Rat) < 2 ^ f.maxExponent := by positivity
  refine rat?_round ?_
  rw [BinaryFormat.bound, pow_succ]
  calc |nearest f q| = |q + (nearest f q - q)| := by rw [add_sub_cancel]
    _ ≤ |q| + |nearest f q - q| := abs_add_le _ _
    _ < 2 ^ f.maxExponent * 2 := by linarith

/-! ## Operations on numbers -/

variable {x y : Binary f} {a b : Rat}

theorem mul_eq (hx : x.rat? = some a) (hy : y.rat? = some b) : x * y = round f (a * b) := by
  show Binary.mul x y = _
  rw [Binary.mul, hx, hy]

theorem div_eq (hx : x.rat? = some a) (hy : y.rat? = some b) (nonzero : b ≠ 0) :
    x / y = round f (a / b) := by
  show Binary.div x y = _
  rw [Binary.div, hx, hy]
  exact if_pos nonzero

theorem rat?_neg (hx : x.rat? = some a) : x.neg.rat? = some (-a) := by
  cases x with
  | nan => cases hx
  | infinite => cases hx
  | negativeZero =>
    cases hx
    simp [Binary.neg, rat?]
  | finite q =>
    cases hx
    unfold Binary.neg
    dsimp only
    split_ifs with zero
    · rw [zero, neg_zero, rat?]
    · rfl

theorem add_eq (hx : x.rat? = some a) (hy : y.rat? = some b) : x + y = round f (a + b) := by
  show Binary.add x y = _
  cases x <;> cases hx <;> cases y <;> cases hy <;> rfl

theorem sub_eq (hx : x.rat? = some a) (hy : y.rat? = some b) : x - y = round f (a - b) := by
  rw [sub_eq_add_neg]
  exact add_eq hx (rat?_neg hy)

theorem le_eq (hx : x.rat? = some a) (hy : y.rat? = some b) : x.le y = decide (a ≤ b) := by
  cases x <;> cases hx <;> cases y <;> cases hy <;> rfl

theorem lt_iff (hx : x.rat? = some a) (hy : y.rat? = some b) : x < y ↔ a < b := by
  show (x.le y && !y.le x) = true ↔ _
  rw [le_eq hx hy, le_eq hy hx, Bool.and_eq_true, Bool.not_eq_true', decide_eq_true_eq,
    decide_eq_false_iff_not, not_le, and_iff_right_of_imp le_of_lt]

/-- A number that fits 32 bits becomes its integer part. -/
theorem toInt_toInt32 (hx : x.rat? = some a) (low : -2 ^ 31 ≤ Rounding.towardZero a)
    (high : Rounding.towardZero a < 2 ^ 31) : x.toInt32.toInt = Rounding.towardZero a := by
  have part : x.toIntWithin Rounding.towardZero Int32.minValue.toInt Int32.maxValue.toInt =
      max Int32.minValue.toInt (min Int32.maxValue.toInt (Rounding.towardZero a)) := by
    cases x <;> cases hx <;> rfl
  have least : Int32.minValue.toInt = -2 ^ 31 := rfl
  have greatest : Int32.maxValue.toInt = 2 ^ 31 - 1 := rfl
  rw [toInt32, part, Int32.toInt_ofInt_of_le] <;> omega

end Binary

/-! ## Single precision -/

namespace Single

open Binary

variable {x y : Single} {a b q : Rat} {m n : Nat}

/-- A whole number of up to 24 bits is kept, and others round to one side of it or the other. -/
theorem place_nonpos (h : |q| < 2 ^ 24) : place .single |q| ≤ 0 :=
  place_le (f := .single) (k := 24) (by decide) (by decide) (by exact_mod_cast h)

theorem rat?_round (h : |q| < 2 ^ 127) :
    (Binary.round .single q).rat? = some (nearest .single q) :=
  rat?_round_of_lt (by decide) h

theorem rat?_ofInt {n : Int} (low : -2 ^ 24 < n) (high : n < 2 ^ 24) :
    (ofInt n : Single).rat? = some (n : Rat) := by
  have small : |(n : Rat)| < 2 ^ 24 := by
    rw [abs_lt]
    exact ⟨by exact_mod_cast low, by exact_mod_cast high⟩
  have fine := place_nonpos small
  rw [ofInt, rat?_round (small.trans (by norm_num)),
    le_antisymm (nearest_le fine le_rfl) (le_nearest fine le_rfl)]

/-- The part of a number that one rounding misses at most. -/
def roundoff : Rat := 1 / 2 ^ 24

/-- `x` is a number that misses the positive `a` by no more than `m` roundings do. -/
def Close (m : Nat) (x : Single) (a : Rat) : Prop :=
  ∃ r, x.rat? = some r ∧ (1 - m * roundoff) * a ≤ r ∧ r ≤ (1 + m * roundoff) * a

theorem Close.of_eq (hx : x.rat? = some a) : Close 0 x a := ⟨a, hx, by simp, by simp⟩

theorem close_round (small : 1 / 2 ^ 110 ≤ q) (large : q ≤ 2 ^ 110) :
    Close 1 (Binary.round .single q) q := by
  have positive : 0 < q := lt_of_lt_of_le (by positivity) small
  have normal :
      (2 : Rat) ^ (BinaryFormat.single.minPlace + BinaryFormat.single.precision - 1) ≤ |q| := by
    rw [abs_of_pos positive]
    refine le_trans ?_ small
    rw [show BinaryFormat.single.minPlace + BinaryFormat.single.precision - 1 = -126 from rfl]
    norm_num
  have error := abs_nearest_sub_le_of_normal normal
  rw [abs_of_pos positive, abs_le, show BinaryFormat.single.precision = 24 from rfl] at error
  refine ⟨_, rat?_round ?_, ?_, ?_⟩
  · rw [abs_of_pos positive]
    exact large.trans_lt (by norm_num)
  · rw [Nat.cast_one, roundoff]
    linarith
  · rw [Nat.cast_one, roundoff]
    linarith

/-- A whole number that may be too long for the format. -/
theorem close_ofInt {n : Int} (positive : 0 < n) (high : n ≤ 2 ^ 31) : Close 1 (ofInt n) n := by
  have one : (1 : Rat) ≤ n := by exact_mod_cast positive
  have high : (n : Rat) ≤ 2 ^ 31 := by exact_mod_cast high
  exact close_round (le_trans (by norm_num) one) (high.trans (by norm_num))

/-- Numbers that are not tiny or huge. -/
def Usual (a : Rat) : Prop := 1 / 2 ^ 100 ≤ a ∧ a ≤ 2 ^ 100

theorem Usual.pos (usual : Usual a) : 0 < a := lt_of_lt_of_le (by positivity) usual.1

/-- One more rounding, of a number that is already known to be between two multiples of `a`. -/
theorem close_of_between (low high : Rat) (usual : Usual a) (hl : 1 / 4 ≤ low) (hh : high ≤ 4)
    (above : low * a ≤ q) (below : q ≤ high * a) (lower : 1 - m * roundoff ≤ low * (1 - roundoff))
    (upper : high * (1 + roundoff) ≤ 1 + m * roundoff) :
    Close m (Binary.round .single q) a := by
  have positive := usual.pos
  obtain ⟨small, large⟩ := usual
  have off : 0 < roundoff ∧ roundoff < 1 := by norm_num [roundoff]
  have least : 1 / 4 * a ≤ q := le_trans (by gcongr) above
  have most : q ≤ 4 * a := le_trans below (by gcongr)
  obtain ⟨r, hr, rLow, rHigh⟩ := close_round (q := q)
    (le_trans (by norm_num) ((mul_le_mul_of_nonneg_left small (by norm_num)).trans least))
    (most.trans ((mul_le_mul_of_nonneg_left large (by norm_num)).trans (by norm_num)))
  rw [Nat.cast_one, one_mul] at rLow rHigh
  refine ⟨r, hr, ?_, ?_⟩
  · calc (1 - m * roundoff) * a ≤ low * (1 - roundoff) * a := by gcongr
      _ = (1 - roundoff) * (low * a) := by ring
      _ ≤ (1 - roundoff) * q := mul_le_mul_of_nonneg_left above (by linarith)
      _ ≤ r := rLow
  · calc r ≤ (1 + roundoff) * q := rHigh
      _ ≤ (1 + roundoff) * (high * a) := mul_le_mul_of_nonneg_left below (by linarith)
      _ = high * (1 + roundoff) * a := by ring
      _ ≤ (1 + m * roundoff) * a := by gcongr

/-! A result misses by what its arguments miss, by its own rounding, and by what their products come
to, which is less than one rounding as long as there are not thousands of them. -/

/-- The parts that `m` and `n` roundings miss, and their products. -/
theorem products_le (hm : m ≤ 2 ^ 10) (hn : n ≤ 2 ^ 10) :
    (0 ≤ m * roundoff ∧ m * roundoff ≤ 1 / 2 ^ 14) ∧
      0 ≤ m * roundoff * (n * roundoff) ∧ m * roundoff * (n * roundoff) ≤ 1 / 2 ^ 28 := by
  have part {k : Nat} (hk : k ≤ 2 ^ 10) : 0 ≤ k * roundoff ∧ k * roundoff ≤ 1 / 2 ^ 14 := by
    have hk : (k : Rat) ≤ 2 ^ 10 := by exact_mod_cast hk
    rw [roundoff]
    exact ⟨by positivity, by linarith⟩
  obtain ⟨m0, m1⟩ := part hm
  obtain ⟨n0, n1⟩ := part hn
  refine ⟨⟨m0, m1⟩, mul_nonneg m0 n0, (mul_le_mul m1 n1 n0 (by norm_num)).trans (by norm_num)⟩

theorem Close.mul (hx : Close m x a) (hy : Close n y b) (hm : m ≤ 2 ^ 10) (hn : n ≤ 2 ^ 10)
    (ha : 0 < a) (hb : 0 < b) (usual : Usual (a * b)) : Close (m + n + 2) (x * y) (a * b) := by
  obtain ⟨r, hr, low, high⟩ := hx
  obtain ⟨s, hs, low', high'⟩ := hy
  obtain ⟨⟨m0, m1⟩, mn0, mn1⟩ := products_le hm hn
  obtain ⟨⟨n0, n1⟩, -⟩ := products_le hn hm
  have r0 : 0 ≤ r := le_trans (mul_nonneg (by linarith) ha.le) low
  have s0 : 0 ≤ s := le_trans (mul_nonneg (by linarith) hb.le) low'
  rw [mul_eq hr hs]
  refine close_of_between ((1 - m * roundoff) * (1 - n * roundoff))
    ((1 + m * roundoff) * (1 + n * roundoff)) usual ?_ ?_ ?_ ?_ ?_ ?_
  · linarith
  · linarith
  · calc (1 - m * roundoff) * (1 - n * roundoff) * (a * b)
        = (1 - m * roundoff) * a * ((1 - n * roundoff) * b) := by ring
      _ ≤ r * s := mul_le_mul low low' (mul_nonneg (by linarith) hb.le) r0
  · calc r * s ≤ (1 + m * roundoff) * a * ((1 + n * roundoff) * b) :=
          mul_le_mul high high' s0 (mul_nonneg (by linarith) ha.le)
      _ = (1 + m * roundoff) * (1 + n * roundoff) * (a * b) := by ring
  · rw [roundoff] at *
    push_cast
    linarith
  · rw [roundoff] at *
    push_cast
    linarith

theorem Close.div (hx : Close m x a) (hy : Close n y b) (hm : m ≤ 2 ^ 10) (hn : n ≤ 2 ^ 10)
    (ha : 0 < a) (hb : 0 < b) (usual : Usual (a / b)) : Close (m + n + 2) (x / y) (a / b) := by
  obtain ⟨r, hr, low, high⟩ := hx
  obtain ⟨s, hs, low', high'⟩ := hy
  obtain ⟨⟨m0, m1⟩, mn0, mn1⟩ := products_le hm hn
  obtain ⟨⟨n0, n1⟩, nn0, nn1⟩ := products_le hn hn
  have less : 0 < (1 - n * roundoff) * b := mul_pos (by linarith) hb
  have r0 : 0 ≤ r := le_trans (mul_nonneg (by linarith) ha.le) low
  have s0 : 0 < s := less.trans_le low'
  rw [div_eq hr hs s0.ne']
  refine close_of_between ((1 - m * roundoff) / (1 + n * roundoff))
    ((1 + m * roundoff) / (1 - n * roundoff)) usual ?_ ?_ ?_ ?_ ?_ ?_
  · rw [le_div_iff₀ (by linarith)]
    linarith
  · rw [div_le_iff₀ (by linarith)]
    linarith
  · calc (1 - m * roundoff) / (1 + n * roundoff) * (a / b)
        = (1 - m * roundoff) * a / ((1 + n * roundoff) * b) := div_mul_div_comm ..
      _ ≤ r / s := div_le_div₀ r0 low s0 high'
  · calc r / s ≤ (1 + m * roundoff) * a / ((1 - n * roundoff) * b) :=
          div_le_div₀ (r0.trans high) high less low'
      _ = (1 + m * roundoff) / (1 - n * roundoff) * (a / b) := (div_mul_div_comm ..).symm
  · rw [div_mul_eq_mul_div, le_div_iff₀ (by linarith)]
    rw [roundoff] at *
    push_cast
    linarith
  · rw [div_mul_eq_mul_div, div_le_iff₀ (by linarith)]
    rw [roundoff] at *
    push_cast
    linarith

end Single

end Viewfinder
