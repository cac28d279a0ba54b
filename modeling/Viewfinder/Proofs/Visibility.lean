import Viewfinder.Proofs.Framing
import Viewfinder.Proofs.Ordering

/-!
# When a viewport shows anything

The part of a frame that a viewport shows is laid out from the middle of each axis, which is cut to
a whole number. It has a column of pixels exactly if its left edge comes to lie before the middle:
if there is a pixel before the middle at all, and if half the length is more than what rounding
drops there (`edges_lt_iff`). What rounding drops is half of `grain`, the distance of the numbers
below the middle, and neither the computed factor nor the computed length passes that where the
exact one does not (`grain_lt_iff`).
-/

namespace Viewfinder

open Binary Single

/-- The distance of the single-precision numbers just below `c`. -/
def grain (c : Nat) : Rat := 2 ^ (2 * c - 1).log2 / 2 ^ 24

/-! ## What rounding drops -/

section

variable {c : Nat} {e q : Rat}

theorem grain_eq (c : Nat) : grain c = 2 ^ (((2 * c - 1).log2 : Int) - 24) := by
  rw [grain, zpow_sub₀ two_ne_zero, zpow_natCast]
  norm_num

theorem grain_pos (c : Nat) : 0 < grain c := by
  rw [grain]
  positivity

/-- It is the fraction of one by an even number. -/
theorem grain_mul_eq_one (positive : 0 < c) (small : c < 2 ^ 15) :
    ∃ d : Nat, 2 ^ 8 ≤ d ∧ grain c * (2 * d) = 1 := by
  have bits : (2 * c - 1).log2 < 16 := (Nat.log2_lt (by omega)).2 (by omega)
  rw [grain]
  generalize (2 * c - 1).log2 = j at bits
  refine ⟨2 ^ (23 - j), Nat.pow_le_pow_right two_pos (by omega), ?_⟩
  have whole : 2 ^ j * (2 * 2 ^ (23 - j)) = 2 ^ 24 := by
    rw [← pow_succ', ← pow_add]
    congr 1
    omega
  rw [div_mul_eq_mul_div, div_eq_one_iff_eq (by positivity)]
  exact_mod_cast whole

/-- So `c` is an even multiple of it. -/
theorem exists_grains (positive : 0 < c) (small : c < 2 ^ 15) :
    ∃ m : Int, m % 2 = 0 ∧ (c : Rat) = m * grain c := by
  obtain ⟨d, -, unit⟩ := grain_mul_eq_one positive small
  refine ⟨c * (2 * d), by rw [mul_left_comm]; exact Int.mul_emod_right _ _, ?_⟩
  push_cast
  rw [mul_assoc, mul_comm (2 * (d : Rat)), unit, mul_one]

theorem grain_le (positive : 0 < c) (small : c < 2 ^ 15) : grain c ≤ 1 / 2 ^ 9 := by
  obtain ⟨d, hd, unit⟩ := grain_mul_eq_one positive small
  have hd : (2 ^ 8 : Rat) ≤ d := by exact_mod_cast hd
  have grained := grain_pos c
  rw [le_div_iff₀ (by positivity), ← unit]
  exact mul_le_mul_of_nonneg_left (by linarith) grained.le

/-- It is the last place of the numbers just below `c`. -/
theorem place_below (positive : 0 < c) (low : (c : Rat) - 1 / 2 ≤ q) (high : q < c) :
    place .single |q| = ((2 * c - 1).log2 : Int) - 24 := by
  have below := Nat.log2_self_le (n := 2 * c - 1) (by omega)
  have above := Nat.lt_log2_self (n := 2 * c - 1)
  generalize (2 * c - 1).log2 = j at *
  rw [pow_succ] at above
  have below : (2 : Rat) ^ j + 1 ≤ 2 * c := by exact_mod_cast (by omega : 2 ^ j + 1 ≤ 2 * c)
  have above : (c : Rat) ≤ 2 ^ j := by exact_mod_cast (by omega : c ≤ 2 ^ j)
  have least :
      BinaryFormat.single.minPlace ≤ (j - 1 : Int) + 1 - BinaryFormat.single.precision := by
    show (2 - 127 - 24 : Int) ≤ (j - 1 : Int) + 1 - 24
    omega
  have same : ((j : Int) - 1) + 1 - BinaryFormat.single.precision = (j : Int) - 24 := by
    show ((j : Int) - 1) + 1 - 24 = _
    omega
  rw [← same]
  refine place_eq least ?_ ?_
  · rw [zpow_sub_one₀ two_ne_zero, zpow_natCast]
    linarith
  · rw [sub_add_cancel, zpow_natCast]
    linarith

theorem nearest_natCast (small : c < 2 ^ 15) : nearest .single (c : Rat) = c := by
  have kept := nearest_multiple (f := .single) (m := c) (e := 0) (by decide)
    (by show |(c : Int)| ≤ 2 ^ 24; rw [abs_of_nonneg (by omega)]; omega) (by decide)
  simpa using kept

/-- What is not more than half of it is dropped. -/
theorem nearest_sub_eq (positive : 0 < c) (small : c < 2 ^ 15) (nonneg : 0 ≤ e)
    (short : e ≤ grain c / 2) : nearest .single (c - e) = c := by
  rcases nonneg.eq_or_lt with rfl | some_
  · rw [sub_zero, nearest_natCast small]
  · have fine := grain_le positive small
    obtain ⟨m, even, multiple⟩ := exists_grains positive small
    have last := place_below (q := c - e) positive (by linarith) (by linarith)
    have kept := nearest_eq_of_even (m := m) last even (by
      rw [← grain_eq, ← multiple, sub_sub_cancel_left, abs_neg, abs_of_pos some_]
      exact short)
    rwa [← grain_eq, ← multiple] at kept

/-- What is more than half of it is not. -/
theorem nearest_sub_lt (positive : 0 < c) (small : c < 2 ^ 15) (long : grain c / 2 < e) :
    nearest .single (c - e) < c := by
  have grained := grain_pos c
  have fine := grain_le positive small
  -- a length that reaches less far than the next number
  obtain ⟨d, hd⟩ : ∃ d, d = min e (3 / 4 * grain c) := ⟨_, rfl⟩
  have bounds : grain c / 2 < d ∧ d ≤ e ∧ d ≤ 3 / 4 * grain c :=
    ⟨hd ▸ lt_min long (by linarith), hd ▸ min_le_left _ _, hd ▸ min_le_right _ _⟩
  obtain ⟨m, -, multiple⟩ := exists_grains positive small
  have last := place_below (q := c - d) positive (by linarith) (by linarith)
  have error := abs_le.1 (abs_nearest_sub_le .single ((c : Rat) - d))
  rw [last, ← grain_eq] at error
  refine (nearest_mono (r := c - d) (by decide) (by linarith)).trans_lt ?_
  linarith [error.2]

end

/-! ## The edges -/

/-- There is a pixel from the left edge to the right one exactly if there is one before the middle
and half the length is more than what rounding drops there. -/
theorem edges_lt_iff {n : Nat} {half : Single} {e : Rat} (side : n < 2 ^ 16)
    (value : half.rat? = some e) (nonneg : 0 ≤ e) (short : e ≤ n / 2 + 1 / 16) :
    (ofInt (n / 2 : Nat) - half : Single).toInt32.toInt <
        (ofInt (n / 2 : Nat) + half : Single).toInt32.toInt ↔
      2 ≤ n ∧ grain (n / 2) / 2 < e := by
  obtain ⟨c, middle⟩ : ∃ c, n / 2 = c := ⟨_, rfl⟩
  obtain ⟨⟨low, left⟩, high, right⟩ :=
    edges_eq (c := c) side (congrArg Nat.cast middle.symm) value nonneg short
  rw [Int.cast_natCast] at left right low high
  rw [middle, low, high]
  obtain ⟨leftLow, -⟩ := abs_le.1 left.near
  obtain ⟨-, rightHigh⟩ := abs_le.1 right.near
  have beyond := Rounding.le_towardZero (n := c) (right.above c (by push_cast; linarith))
  rcases c.eq_zero_or_pos with rfl | positive
  · -- both edges are less than a pixel away from zero
    have narrow : (n : Rat) ≤ 1 := by exact_mod_cast (by omega : n ≤ 1)
    rw [Nat.cast_zero] at *
    have outermost := Rounding.towardZero_nonneg (q := nearest .single (0 - e)) (by linarith)
    have innermost := Rounding.towardZero_lt (n := 1) (q := nearest .single (0 + e)) one_pos
      (by push_cast; linarith)
    refine iff_of_false ?_ fun some_ => by omega
    omega
  · rw [and_iff_right (by omega)]
    constructor
    · contrapose!
      intro swallowed
      have fine := grain_le positive (by omega)
      have ends := Rounding.towardZero_lt (n := c + 1) (q := nearest .single (c + e)) (by omega)
        (by push_cast; linarith)
      rw [nearest_sub_eq positive (by omega) nonneg swallowed]
      have kept := Rounding.le_towardZero (n := c) (q := c) (by simp)
      omega
    · intro reaches
      have before := Rounding.towardZero_lt (n := c) (by omega)
        (nearest_sub_lt positive (by omega) reaches)
      omega

/-! ## The lengths -/

/-- A length that is not exactly `g` is far enough from it for `e` to be on the same side. -/
theorem half_lt_iff {g t e : Rat} {x k : Int} (positive : 0 < g) (some_ : 0 < k)
    (small : k < 2 ^ 16) (ratio : t * k = g * x) (low : (1 - 16 * roundoff) * (t / 2) ≤ e)
    (high : e ≤ (1 + 16 * roundoff) * (t / 2)) (apart : x ≠ k) : g / 2 < e ↔ g < t := by
  have k0 : (0 : Rat) < k := by exact_mod_cast some_
  have k1 : (k : Rat) ≤ 2 ^ 16 := by exact_mod_cast small.le
  have half : t / 2 * k = g * x / 2 := by rw [div_mul_eq_mul_div, ratio]
  rw [roundoff] at low high
  rcases apart.lt_or_gt with less | more
  · have less : (x : Rat) + 1 ≤ k := by exact_mod_cast less
    refine iff_of_false (not_lt.2 ?_) (not_lt.2 ?_)
    · refine le_of_mul_le_mul_right ?_ k0
      calc e * k ≤ (1 + 16 * (1 / 2 ^ 24)) * (t / 2) * k := by gcongr
        _ = g * ((1 + 16 * (1 / 2 ^ 24)) * x) / 2 := by rw [mul_assoc, half]; ring
        _ ≤ g * k / 2 := by gcongr; linarith
        _ = g / 2 * k := by ring
    · refine le_of_mul_le_mul_right ?_ k0
      rw [ratio]
      gcongr
  · have more : (k : Rat) + 1 ≤ x := by exact_mod_cast more
    refine iff_of_true ?_ ?_
    · refine lt_of_mul_lt_mul_right ?_ k0.le
      calc g / 2 * k = g * k / 2 := by ring
        _ < g * ((1 - 16 * (1 / 2 ^ 24)) * x) / 2 := by gcongr; linarith
        _ = (1 - 16 * (1 / 2 ^ 24)) * (t / 2) * k := by rw [mul_assoc, half]; ring
        _ ≤ e * k := by gcongr
    · refine lt_of_mul_lt_mul_right ?_ k0.le
      rw [ratio]
      gcongr

/-- What is one rounding above a power of two is rounded to it. -/
theorem nearest_le_zpow {q : Rat} {j : Int} (least : -100 ≤ j) (h : q ≤ (1 + roundoff) * 2 ^ j) :
    nearest .single q ≤ 2 ^ j := by
  have positive : (0 : Rat) < 2 ^ j := by positivity
  have unit : (2 : Rat) ^ (j - 23) = 2 ^ j / 2 ^ 23 := zpow_sub₀ two_ne_zero j 23
  have last : place .single |(1 + roundoff) * 2 ^ j| = j - 23 := by
    refine (place_eq (k := j) ?_ ?_ ?_).trans ?_
    · show (2 - 127 - 24 : Int) ≤ j + 1 - 24
      omega
    · exact le_mul_of_one_le_left positive.le (by norm_num [roundoff])
    · rw [zpow_add_one₀ two_ne_zero, mul_comm]
      exact mul_lt_mul_of_pos_left (by norm_num [roundoff]) positive
    · show j + 1 - 24 = _
      omega
  have whole : (2 : Rat) ^ j = (2 ^ 23 : Int) * 2 ^ (j - 23) := by
    rw [unit]
    push_cast
    linarith
  refine (nearest_mono (by decide) h).trans (le_of_eq ?_)
  rw [nearest_eq_of_even (m := 2 ^ 23) last (by decide), ← whole]
  rw [← whole, add_mul, one_mul, add_sub_cancel_left, abs_of_pos (by rw [roundoff]; positivity),
    unit, roundoff]
  linarith

/-- Where a length of exactly a power of two is due, no more than that comes out, though the factor
may be rounded up. -/
theorem half_le {j m v k : Int} {e : Rat} (least : -50 ≤ j) (hm : 0 < m ∧ m < 2 ^ 16)
    (hv : 0 < v ∧ v < 2 ^ 16) (hk : 0 < k ∧ k < 2 ^ 16) (due : (m / k * v : Rat) = 2 ^ j)
    (value : (ofInt v * (ofInt m / ofInt k) / 2 : Single).rat? = some e) : e ≤ 2 ^ j / 2 := by
  have number {i : Int} (bits : 0 < i ∧ i < 2 ^ 16) : (ofInt i : Single).rat? = some (i : Rat) :=
    rat?_ofInt (by omega) (by omega)
  have k0 : (0 : Rat) < k := by exact_mod_cast hk.1
  have v0 : (0 : Rat) < v := by exact_mod_cast hv.1
  have v1 : (v : Rat) ≤ 2 ^ 16 := by exact_mod_cast hv.2.le
  obtain ⟨-, factorLeast, factorMost⟩ := close_ratio hm ⟨hk.1, by omega⟩
  obtain ⟨r, factor, low, high⟩ := close_round (q := m / k) (le_trans (by norm_num) factorLeast)
    (factorMost.trans (by norm_num))
  rw [Nat.cast_one, one_mul] at low high
  have r0 : 0 ≤ r := by
    refine le_trans (mul_nonneg ?_ (le_trans ?_ factorLeast)) low <;> norm_num [roundoff]
  have whole : v * r ≤ (1 + roundoff) * 2 ^ j := by
    calc v * r ≤ v * ((1 + roundoff) * (m / k)) := by gcongr
      _ = (1 + roundoff) * (m / k * v) := by ring
      _ = (1 + roundoff) * 2 ^ j := by rw [due]
  have moderate : |v * r| < 2 ^ 127 := by
    rw [abs_of_nonneg (by positivity)]
    have more : (1 + roundoff) * (m / k) ≤ (1 + roundoff) * 2 ^ 16 :=
      mul_le_mul_of_nonneg_left factorMost (by norm_num [roundoff])
    calc v * r ≤ 2 ^ 16 * ((1 + roundoff) * 2 ^ 16) := by gcongr; exact high.trans more
      _ < 2 ^ 127 := by norm_num [roundoff]
  have two : (2 : Single).rat? = some 2 := rat?_ofInt (n := 2) (by decide) (by decide)
  have doubled : nearest .single (v * r) ≤ 2 ^ j := nearest_le_zpow (by omega) whole
  rw [div_eq (number hm) (number hk) k0.ne', mul_eq (number hv) factor,
    div_eq (Single.rat?_round moderate) two two_ne_zero] at value
  have halved : (2 : Rat) ^ (j - 1) = 2 ^ j / 2 := zpow_sub_one₀ two_ne_zero j
  have positive : (0 : Rat) < 2 ^ j := by positivity
  rw [eq_nearest value, ← halved]
  refine nearest_le_zpow (by omega) ?_
  rw [halved, roundoff]
  linarith

/-- The exact length passes the grain exactly if the computed one does. -/
theorem grain_lt_iff {n m : Nat} {v k : Int} {scale : Single} {e s : Rat}
    (long : 2 ≤ n ∧ n < 2 ^ 16) (other : 0 < m ∧ m < 2 ^ 16) (length : 0 < v ∧ v < 2 ^ 16)
    (otherLength : 0 < k ∧ k < 2 ^ 16) (least : s = min (n / v : Rat) (m / k))
    (taken : Taken scale s n v ∨ Taken scale s m k)
    (value : (ofInt v * scale / 2 : Single).rat? = some e)
    (low : (1 - 16 * roundoff) * (s * v / 2) ≤ e)
    (high : e ≤ (1 + 16 * roundoff) * (s * v / 2)) :
    grain (n / 2) / 2 < e ↔ grain (n / 2) < s * v := by
  have fine := grain_le (c := n / 2) (by omega) (by omega)
  have positive := grain_pos (n / 2)
  have v0 : (0 : Rat) < v := by exact_mod_cast length.1
  have k0 : (0 : Rat) < k := by exact_mod_cast otherLength.1
  have wide : (2 : Rat) ≤ n := by exact_mod_cast long.1
  rcases le_total (n / v : Rat) (m / k) with first | second
  · -- the whole axis, which is longer than any grain
    have whole : s * v = n := by
      rw [least, min_eq_left first, div_mul_cancel₀ _ v0.ne']
    rw [whole, roundoff] at low
    rw [whole]
    exact iff_of_true (by linarith) (by linarith)
  · rw [min_eq_right second] at least
    obtain ⟨d, -, unit⟩ := grain_mul_eq_one (c := n / 2) (by omega) (by omega)
    have ratio : s * v * k = grain (n / 2) * (m * v * (2 * d) : Int) := by
      push_cast
      calc s * v * k = m / k * k * v := by rw [least]; ring
        _ = m * v * (grain (n / 2) * (2 * d)) := by rw [div_mul_cancel₀ _ k0.ne', unit, mul_one]
        _ = grain (n / 2) * (m * v * (2 * d)) := by ring
    by_cases apart : (m * v * (2 * d) : Int) = k
    · have due : s * v = grain (n / 2) := by
        rw [apart] at ratio
        exact mul_right_cancel₀ k0.ne' ratio
      rw [due]
      refine iff_of_false (not_lt.2 ?_) (lt_irrefl _)
      rcases taken with ⟨-, almost⟩ | ⟨rfl, -⟩
      · -- the whole axis is far longer
        have whole : (1 - 6 * roundoff) * n ≤ s * v := by
          calc (1 - 6 * roundoff) * n = (1 - 6 * roundoff) * (n / v) * v := by
                rw [mul_assoc, div_mul_cancel₀ _ v0.ne']
            _ ≤ s * v := by gcongr
        rw [roundoff] at whole
        linarith
      · rw [grain_eq] at due ⊢
        exact half_le (by omega) (by omega) length otherLength (least ▸ due) value
    · exact half_lt_iff positive otherLength.1 otherLength.2 ratio low high apart

/-- A length `t` out of the middle of an axis with `n` pixels shows at least a pixel. -/
def Visible (n : Nat) (t : Rat) : Prop := 2 ≤ n ∧ grain (n / 2) < t

/-- The edges of an axis, from the factor of this axis or of the other one. -/
theorem axis_lt_iff {n m : Nat} {v k : Int} {scale : Single} {s : Rat} (side : 0 < n ∧ n < 2 ^ 16)
    (other : 0 < m ∧ m < 2 ^ 16) (length : 0 < v ∧ v < 2 ^ 16)
    (otherLength : 0 < k ∧ k < 2 ^ 16) (least : s = min (n / v : Rat) (m / k))
    (taken : Taken scale s n v ∨ Taken scale s m k) :
    (ofInt (n / 2 : Nat) - ofInt v * scale / 2 : Single).toInt32.toInt <
        (ofInt (n / 2 : Nat) + ofInt v * scale / 2 : Single).toInt32.toInt ↔ Visible n (s * v) := by
  have below : s ≤ n / v ∧ s ≤ m / k := le_min_iff.1 least.le
  have fits : Fits scale s := taken.elim (·.fits side (by omega) below.1)
    (·.fits other (by omega) below.2)
  have v0 : (0 : Rat) < v := by exact_mod_cast length.1
  have within : s * v ≤ n := (le_div_iff₀ v0).1 below.1
  have bits : s * v ≤ 2 ^ 16 := within.trans (by exact_mod_cast side.2.le)
  obtain ⟨e, value, nonneg, near⟩ := fits.half (v := v) (by omega) bits
  obtain ⟨-, short⟩ := abs_le.1 near
  obtain ⟨e', value', low, high⟩ := fits.half_close (v := v) (by omega) bits
  obtain rfl := Option.some.inj (value.symm.trans value')
  rw [edges_lt_iff side.2 value nonneg (by linarith)]
  exact and_congr_right fun wide =>
    grain_lt_iff ⟨wide, side.2⟩ other length otherLength least taken value low high

/-! ## The part -/

namespace visiblePart

variable {preview : Size} {visible : Rect} {w h : Int}

theorem fitted_lt_iff (short : preview.Short) (spans : visible.Spans w h)
    (limited : w < 2 ^ 16 ∧ h < 2 ^ 16) :
    let r := fitted preview (ofInt w) (ofInt h)
    (r.left.toInt < r.right.toInt ↔ Visible preview.width.toNat (preview.scaleOf w h * w)) ∧
      (r.top.toInt < r.bottom.toInt ↔ Visible preview.height.toNat (preview.scaleOf w h * h)) := by
  have taken := fittingScale_cases short spans.wide spans.high
  have wide : 0 < w ∧ w < 2 ^ 16 := ⟨spans.wide.1, limited.1⟩
  have high : 0 < h ∧ h < 2 ^ 16 := ⟨spans.high.1, limited.2⟩
  rw [fitted_eq]
  exact ⟨axis_lt_iff short.1 short.2 wide high rfl taken,
    axis_lt_iff short.2 short.1 high wide (min_comm _ _) taken.symm⟩

theorem lt_iff (rotation : UInt32) (short : preview.Short) (spans : visible.Spans w h)
    (limited : w < 2 ^ 16 ∧ h < 2 ^ 16) {r : Rect}
    (part : visiblePart preview visible rotation = some r) :
    let turned := preview.turned rotation
    (r.left.toInt < r.right.toInt ↔ Visible turned.width.toNat (turned.scaleOf w h * w)) ∧
      (r.top.toInt < r.bottom.toInt ↔ Visible turned.height.toNat (turned.scaleOf w h * h)) := by
  obtain rfl := Option.some.inj ((eq_some rotation short spans).symm.trans part)
  unfold Size.turned
  split
  · exact fitted_lt_iff short spans limited
  · dsimp only
    rw [Size.scaleOf_transposed]
    exact (fitted_lt_iff short spans.transposed limited.symm).symm

end visiblePart

/-- A frame that has pixels misses nothing but bytes. -/
theorem Frame.readable_of_short {f : Frame} (short : f.size.Short)
    (complete : f.needed ≤ f.data.size) : ¬f.Unreadable := by
  rintro (missing | ⟨-, blank⟩)
  · omega
  · have empty := short.isEmpty
    simp only [Size.isEmpty, Bool.or_eq_false_iff, beq_eq_false_iff_ne] at empty
    exact blank.elim empty.1 empty.2

/-- The part that a viewport shows has an area, so that a still of a complete frame is not refused
as empty, exactly if the turned frame has at least two pixels on each axis and the exact lengths
are greater than the distance of the numbers that single precision has just below the middles. -/
theorem visiblePart_area_iff (preview : Size) (visible : Rect) (rotation : UInt32) {w h : Int}
    (short : preview.Short) (spans : visible.Spans w h) (limited : w < 2 ^ 16 ∧ h < 2 ^ 16)
    (quarters : rotation % 90 = 0) :
    let turned := preview.turned rotation
    let s : Rat := min (turned.width.toNat / w) (turned.height.toNat / h)
    let seen := Visible turned.width.toNat (s * w) ∧ Visible turned.height.toNat (s * h)
    ∃ r, visiblePart preview visible rotation = some r ∧
      (∃ wide high, r.width = some wide ∧ r.height = some high ∧
        (0 < wide.toInt ∧ 0 < high.toInt ↔ seen)) ∧
      ∀ (f : Frame) (quality : UInt8), f.size = preview → f.needed ≤ f.data.size →
        ((∃ details, f.still rotation r quality = .error (.emptyCrop details)) ↔ ¬seen) := by
  intro turned s seen
  obtain ⟨r, part, across, down⟩ := visiblePart.centred rotation short spans
  obtain ⟨acrossIff, downIff⟩ := visiblePart.lt_iff rotation short spans limited part
  have ordered : r.Ordered :=
    ⟨Int32.le_iff_toInt_le.2 across.ordered, Int32.le_iff_toInt_le.2 down.ordered⟩
  have extent : r.left.toInt < r.right.toInt ∧ r.top.toInt < r.bottom.toInt ↔ seen :=
    and_congr acrossIff downIff
  refine ⟨r, part, ?_, fun f quality size complete => ?_⟩
  · obtain ⟨wide, high, width, height, inWidth, inHeight⟩ :=
      ordered.exists_sides across.inside down.inside
    refine ⟨wide, high, width, height, ?_⟩
    rw [← extent, inWidth, inHeight]
    omega
  subst size
  obtain ⟨-, made⟩ := (f.decode_cases short.moderate).resolve_left fun failed =>
    Frame.readable_of_short short complete failed.1
  obtain ⟨wide, high⟩ := Raster.rotate_turned (s := f.size) quarters
    (Raster.width_generate _ _ f.color) (Raster.height_generate _ _ f.color)
  -- every point that it covers is one of the turned frame
  have inside (x y : Int) (covers : r.Covers x y) : Raster.Has
      ((Raster.generate f.size.width.toNat f.size.height.toNat f.color).rotate rotation) x y := by
    obtain ⟨left, right, top, bottom⟩ := covers
    rw [Raster.Has, wide, high]
    exact ⟨across.inside.trans left, right.trans_le across.within, down.inside.trans top,
      bottom.trans_le down.within⟩
  rw [Frame.still_empty_iff quality made short.moderate ordered, ← extent, ← Rect.exists_covers_iff]
  exact not_congr (exists₂_congr fun x y => and_iff_left_of_imp (inside x y))

/-- A viewport a thousand times as wide as high leaves one row of a frame of three. -/
theorem visiblePart_area_iff_wide :
    visiblePart ⟨3, 4⟩ ⟨0, 0, 1000, 1⟩ 90 = some ⟨0, 0, 4, 1⟩ ∧
      ∀ (f : Frame) (quality : UInt8), f.size = ⟨3, 4⟩ → f.needed ≤ f.data.size →
        ¬∃ details, f.still 90 ⟨0, 0, 4, 1⟩ quality = .error (.emptyCrop details) := by
  have part : visiblePart ⟨3, 4⟩ ⟨0, 0, 1000, 1⟩ 90 = some ⟨0, 0, 4, 1⟩ := by decide +kernel
  obtain ⟨r, same, ⟨wide, high, width, height, area⟩, refused⟩ :=
    visiblePart_area_iff ⟨3, 4⟩ ⟨0, 0, 1000, 1⟩ 90 (w := 1000) (h := 1)
      (by unfold Size.Short; decide) ⟨by decide, by decide, by decide, by decide⟩ (by decide)
      (by decide)
  obtain rfl := Option.some.inj (part.symm.trans same)
  obtain rfl := Option.some.inj (width.symm.trans (by decide : _ = some (4 : Int32)))
  obtain rfl := Option.some.inj (height.symm.trans (by decide : _ = some (1 : Int32)))
  exact ⟨part, fun f quality size complete failed =>
    (refused f quality size complete).1 failed (area.1 (by decide))⟩

/-- Nothing is left of a single pixel, whose middle is its own edge, and nothing of two columns that
a viewport shows whole if it is as wide as such a frame is high. -/
theorem visiblePart_slight :
    visiblePart ⟨1, 1⟩ ⟨0, 0, 1, 1⟩ 0 = some ⟨0, 0, 0, 0⟩ ∧
      (∃ details, Frame.still ⟨0, ⟨1, 1⟩, .nv21, #[90, 128, 128]⟩ 0 ⟨0, 0, 0, 0⟩ 80 =
        .error (.emptyCrop details)) ∧
      visiblePart ⟨2, 65535⟩ ⟨0, 0, 65535, 1⟩ 0 = some ⟨0, 32767, 2, 32767⟩ := by
  refine ⟨by decide +kernel, ?_, by decide +kernel⟩
  exact Frame.still_of_none rfl (by decide)

end Viewfinder
