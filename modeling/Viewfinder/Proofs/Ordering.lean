import Viewfinder.Proofs.Precision

/-!
# Rounding keeps order

What a format can write with its own places is rounded to itself (`nearest_multiple`), and of two
numbers the larger is rounded to the larger (`nearest_mono`). So an operation with a fixed second
operand keeps the order of the first (`along_mono`), infinities included, and so does the conversion
to an integer (`toInt32_mono`).
-/

namespace Viewfinder

namespace Rounding

variable {q r : Rat}

theorem toEven_intCast (n : Int) : toEven n = n :=
  le_antisymm (toEven_le le_rfl) (le_toEven le_rfl)

theorem toEven_mono (h : q ≤ r) : toEven q ≤ toEven r := by
  obtain ⟨low, -⟩ := abs_le.1 (abs_toEven_sub_le r)
  obtain ⟨-, high⟩ := abs_le.1 (abs_toEven_sub_le q)
  by_contra crossed
  -- both would have to be halfway between the same two integers
  have apart : (toEven r : Rat) + 1 ≤ toEven q := by exact_mod_cast not_le.1 crossed
  obtain rfl : q = r := by linarith
  linarith

theorem toEven_neg (q : Rat) : toEven (-q) = -toEven q := by
  have low := Rat.floor_le q
  have high := Rat.lt_floor_add_one q
  push_cast at high
  rcases low.eq_or_lt with whole | inner
  · rw [← whole, ← Int.cast_neg, toEven_intCast, toEven_intCast]
  · have mirrored : (-q).floor = -q.floor - 1 := by
      apply le_antisymm
      · exact Int.lt_add_one_iff.1 (Rat.floor_lt_iff.2 (by push_cast; linarith))
      · exact Rat.le_floor_iff.2 (by push_cast; linarith)
    unfold toEven
    dsimp only
    rw [mirrored]
    push_cast
    split_ifs <;> first | omega | (exfalso; linarith)

theorem towardZero_mono (h : q ≤ r) : towardZero q ≤ towardZero r := by
  rcases le_or_gt 0 q with nonneg | negative
  · rw [towardZero_of_nonneg (nonneg.trans h)]
    exact Rat.le_floor_iff.2 ((towardZero_le_self nonneg).trans h)
  · rcases le_or_gt 0 r with nonneg' | negative'
    · have below : towardZero q ≤ 0 := towardZero_le (by exact_mod_cast negative.le)
      exact below.trans (le_towardZero (by exact_mod_cast nonneg'))
    · have floor := Rat.floor_le (-r)
      rw [towardZero_of_neg negative, towardZero_of_neg negative', neg_le_neg_iff]
      exact Rat.le_floor_iff.2 (floor.trans (neg_le_neg h))

end Rounding

theorem floorLog2_mono {q r : Rat} (hq : 0 < q) (h : q ≤ r) : floorLog2 q ≤ floorLog2 r := by
  have low := (floorLog2_spec hq).1
  have high := (floorLog2_spec (hq.trans_le h)).2
  exact Int.lt_add_one_iff.1
    ((zpow_lt_zpow_iff_right₀ (one_lt_two (α := Rat))).1 (low.trans_lt (h.trans_lt high)))

namespace Binary

variable {f : BinaryFormat} {q r : Rat} {m e : Int}

/-! ## Multiples of a last place -/

/-- A multiple of a coarse place is one of each finer place. -/
theorem multiple_of_le {k : Int} (fine : k ≤ e) (m : Int) :
    ∃ n : Int, (m : Rat) * 2 ^ e = n * 2 ^ k := by
  obtain ⟨d, rfl⟩ : ∃ d : Nat, e = k + d := ⟨(e - k).toNat, by omega⟩
  refine ⟨m * 2 ^ d, ?_⟩
  rw [zpow_add₀ two_ne_zero, zpow_natCast]
  push_cast
  ring

theorem multiple_le_nearest (fine : place f |q| ≤ e) (h : (m : Rat) * 2 ^ e ≤ q) :
    (m : Rat) * 2 ^ e ≤ nearest f q := by
  obtain ⟨n, same⟩ := multiple_of_le fine m
  have unit : (0 : Rat) < 2 ^ place f |q| := by positivity
  rw [same] at h ⊢
  rw [nearest, mul_le_mul_iff_of_pos_right unit, Int.cast_le]
  exact Rounding.le_toEven ((le_div_iff₀ unit).2 h)

theorem nearest_le_multiple (fine : place f |q| ≤ e) (h : q ≤ (m : Rat) * 2 ^ e) :
    nearest f q ≤ (m : Rat) * 2 ^ e := by
  obtain ⟨n, same⟩ := multiple_of_le fine m
  have unit : (0 : Rat) < 2 ^ place f |q| := by positivity
  rw [same] at h ⊢
  rw [nearest, mul_le_mul_iff_of_pos_right unit, Int.cast_le]
  exact Rounding.toEven_le ((div_le_iff₀ unit).2 h)

theorem place_le_of_lt {k : Int} (nonzero : q ≠ 0) (least : f.minPlace ≤ k - f.precision)
    (h : |q| < 2 ^ k) : place f |q| ≤ k - f.precision := by
  have leading : floorLog2 |q| < k := (zpow_lt_zpow_iff_right₀ (one_lt_two (α := Rat))).1
    ((floorLog2_spec (abs_pos.2 nonzero)).1.trans_lt h)
  unfold place
  omega

/-- What can be written with the bits of the significand is rounded to itself. -/
theorem nearest_multiple (bits : 1 ≤ f.precision) (short : |m| ≤ 2 ^ f.precision)
    (least : f.minPlace ≤ e) : nearest f ((m : Rat) * 2 ^ e) = (m : Rat) * 2 ^ e := by
  have kept {n k : Int} (short : |n| < 2 ^ f.precision) (least : f.minPlace ≤ k) :
      nearest f ((n : Rat) * 2 ^ k) = (n : Rat) * 2 ^ k := by
    rcases eq_or_ne ((n : Rat) * 2 ^ k) 0 with zero | nonzero
    · rw [zero, nearest_zero]
    · have small : |(n : Rat) * 2 ^ k| < 2 ^ (k + f.precision) := by
        have short : |(n : Rat)| < 2 ^ f.precision := by exact_mod_cast short
        rw [abs_mul, abs_of_pos (by positivity : (0 : Rat) < 2 ^ k), zpow_add₀ two_ne_zero,
          zpow_natCast, mul_comm]
        gcongr
      have fine := place_le_of_lt (f := f) nonzero (by omega) small
      rw [add_sub_cancel_right] at fine
      exact le_antisymm (nearest_le_multiple fine le_rfl) (multiple_le_nearest fine le_rfl)
  rcases short.lt_or_eq with short | full
  · exact kept short least
  · -- the next power of two is short again in units of the next place
    obtain ⟨p, hp⟩ : ∃ p, f.precision = p + 1 := ⟨f.precision - 1, by omega⟩
    obtain ⟨n, hn, rfl⟩ : ∃ n : Int, |n| = 2 ^ p ∧ m = 2 * n := by
      rw [hp, pow_succ] at full
      rcases abs_choice m with sign | sign
      · exact ⟨2 ^ p, abs_of_pos (by positivity), by omega⟩
      · exact ⟨-2 ^ p, by rw [abs_neg]; exact abs_of_pos (by positivity), by omega⟩
    have same : ((2 * n : Int) : Rat) * 2 ^ e = (n : Rat) * 2 ^ (e + 1) := by
      rw [zpow_add_one₀ two_ne_zero]
      push_cast
      ring
    rw [same]
    refine kept ?_ (by omega)
    rw [hn, hp]
    exact pow_lt_pow_right₀ one_lt_two (Nat.lt_succ_self p)

/-- A rounded number is its own rounding. -/
theorem nearest_nearest (bits : 1 ≤ f.precision) (q : Rat) :
    nearest f (nearest f q) = nearest f q := by
  rcases eq_or_ne q 0 with rfl | nonzero
  · simp
  · have unit : (0 : Rat) < 2 ^ place f |q| := by positivity
    have leading : |q| ≤ (2 ^ f.precision : Int) * 2 ^ place f |q| := by
      push_cast
      rw [← zpow_natCast, ← zpow_add₀ two_ne_zero]
      refine (floorLog2_spec (abs_pos.2 nonzero)).2.le.trans (zpow_le_zpow_right₀ one_le_two ?_)
      unfold place
      omega
    obtain ⟨low, high⟩ := abs_le.1 leading
    refine nearest_multiple bits (abs_le.2 ⟨?_, ?_⟩) (le_max_left _ _)
    · exact Rounding.le_toEven ((le_div_iff₀ unit).2 (by push_cast at low ⊢; linarith))
    · exact Rounding.toEven_le ((div_le_iff₀ unit).2 high)

/-! ## Order -/

theorem nearest_neg (f : BinaryFormat) (q : Rat) : nearest f (-q) = -nearest f q := by
  rw [nearest, nearest, abs_neg, neg_div, Rounding.toEven_neg]
  push_cast
  ring

/-- Between numbers with different last places there is a power of two, which both keep. -/
theorem nearest_mono_of_nonneg (bits : 1 ≤ f.precision) (nonneg : 0 ≤ q) (h : q ≤ r) :
    nearest f q ≤ nearest f r := by
  rcases nonneg.eq_or_lt with rfl | positive
  · have zero := multiple_le_nearest (f := f) (q := r) (m := 0) (e := place f |r|) le_rfl
      (by simpa using h)
    simpa using zero
  · have logs := floorLog2_mono positive h
    have low := (floorLog2_spec (positive.trans_le h)).1
    have high := (floorLog2_spec positive).2
    have places : place f q ≤ place f r := by
      unfold place
      omega
    rw [← abs_of_pos positive, ← abs_of_pos (positive.trans_le h)] at places
    rcases places.eq_or_lt with same | finer
    · have unit : (0 : Rat) < 2 ^ place f |r| := by positivity
      rw [nearest, nearest, same, mul_le_mul_iff_of_pos_right unit, Int.cast_le]
      exact Rounding.toEven_mono (by gcongr)
    · rw [abs_of_pos positive, abs_of_pos (positive.trans_le h)] at finer
      have apart : floorLog2 q + 1 ≤ floorLog2 r ∧ place f q ≤ floorLog2 r ∧
          place f r ≤ floorLog2 r := by
        unfold place at *
        omega
      have power : (2 : Rat) ^ floorLog2 r = ((1 : Int) : Rat) * 2 ^ floorLog2 r := by
        rw [Int.cast_one, one_mul]
      have between : q ≤ (2 : Rat) ^ floorLog2 r :=
        high.le.trans (zpow_le_zpow_right₀ one_le_two apart.1)
      rw [power] at low between
      exact (nearest_le_multiple (by rw [abs_of_pos positive]; exact apart.2.1) between).trans
        (multiple_le_nearest (by rw [abs_of_pos (positive.trans_le h)]; exact apart.2.2) low)

theorem nearest_mono (bits : 1 ≤ f.precision) (h : q ≤ r) : nearest f q ≤ nearest f r := by
  rcases le_or_gt 0 q with nonneg | negative
  · exact nearest_mono_of_nonneg bits nonneg h
  · rcases le_or_gt r 0 with nonpos | positive
    · have mirrored := nearest_mono_of_nonneg bits (neg_nonneg.2 nonpos) (neg_le_neg h)
      rwa [nearest_neg, nearest_neg, neg_le_neg_iff] at mirrored
    · have below := nearest_mono_of_nonneg bits le_rfl (neg_nonneg.2 negative.le)
      have above := nearest_mono_of_nonneg bits le_rfl positive.le
      rw [nearest_neg, nearest_zero, neg_nonneg] at below
      rw [nearest_zero] at above
      exact below.trans above

/-! ## Numbers and infinities -/

theorem bound_pos (f : BinaryFormat) : 0 < f.bound := by
  unfold BinaryFormat.bound
  positivity

/-- A rounded number is the nearest one of the format, or an infinity if that is out of range. -/
theorem round_cases (f : BinaryFormat) (q : Rat) :
    f.bound ≤ nearest f q ∧ round f q = .infinite false ∨
      nearest f q ≤ -f.bound ∧ round f q = .infinite true ∨
        |nearest f q| < f.bound ∧ (round f q).rat? = some (nearest f q) := by
  have positive := bound_pos f
  rcases lt_or_ge |nearest f q| f.bound with within | beyond
  · exact .inr (.inr ⟨within, rat?_round within⟩)
  · have nonzero : q ≠ 0 := by
      rintro rfl
      rw [nearest_zero, abs_zero] at beyond
      exact absurd beyond (not_le.2 positive)
    unfold round
    rw [if_neg nonzero, magnitude_eq]
    dsimp only
    rw [← nearest]
    rcases le_abs.1 beyond with above | below
    · exact .inl ⟨above, if_pos above⟩
    · have below : nearest f q ≤ -f.bound := by linarith
      refine .inr (.inl ⟨below, ?_⟩)
      rw [if_neg (by linarith), if_pos below]

theorem eq_nearest {a : Rat} (value : (round f q).rat? = some a) : a = nearest f q := by
  rcases round_cases f q with ⟨-, beyond⟩ | ⟨-, beyond⟩ | ⟨-, within⟩
  · rw [beyond] at value
    cases value
  · rw [beyond] at value
    cases value
  · exact Option.some.inj (value.symm.trans within)

variable {x y : Binary f} {a b : Rat}

theorem eq_finite (hx : x.rat? = some a) (nonzero : a ≠ 0) : x = finite a := by
  cases x <;> cases hx
  · exact absurd rfl nonzero
  · rfl

theorem le_iff (hx : x.rat? = some a) (hy : y.rat? = some b) : x ≤ y ↔ a ≤ b := by
  show x.le y = true ↔ _
  rw [le_eq hx hy, decide_eq_true_eq]

theorem le_infinite (hx : x.rat? = some a) : x ≤ .infinite false := by
  cases x <;> cases hx <;> rfl

theorem infinite_le (hx : x.rat? = some a) : .infinite true ≤ x := by
  cases x <;> cases hx <;> rfl

/-- What is not NaN lies between the infinities. -/
theorem between_infinite (h : x ≠ .nan) : .infinite true ≤ x ∧ x ≤ .infinite false := by
  cases x with
  | nan => exact absurd rfl h
  | infinite negative => cases negative <;> exact ⟨rfl, rfl⟩
  | negativeZero | finite => exact ⟨infinite_le rfl, le_infinite rfl⟩

theorem le_cases (h : x ≤ y) : x = .infinite true ∧ y ≠ .nan ∨ x ≠ .nan ∧ y = .infinite false ∨
    ∃ a b, x.rat? = some a ∧ y.rat? = some b ∧ a ≤ b := by
  cases x with
  | nan => cases y <;> cases h
  | infinite negative =>
    cases negative with
    | true =>
      refine .inl ⟨rfl, ?_⟩
      rintro rfl
      cases h
    | false =>
      cases y with
      | nan | negativeZero | finite => cases h
      | infinite negative' =>
        cases negative' with
        | true => cases h
        | false => exact .inr (.inl ⟨by simp, rfl⟩)
  | negativeZero | finite =>
    cases y with
    | nan => cases h
    | infinite negative' =>
      cases negative' with
      | true => cases h
      | false => exact .inr (.inl ⟨by simp, rfl⟩)
    | negativeZero | finite => exact .inr (.inr ⟨_, _, rfl, rfl, (le_iff rfl rfl).1 h⟩)

theorem round_ne_nan (f : BinaryFormat) (q : Rat) : round f q ≠ .nan := by
  rcases round_cases f q with ⟨-, eq⟩ | ⟨-, eq⟩ | ⟨-, value⟩
  · simp [eq]
  · simp [eq]
  · intro nan
    rw [nan] at value
    cases value

/-- Of two numbers the larger is rounded to the larger. -/
theorem round_mono (bits : 1 ≤ f.precision) (h : q ≤ r) : round f q ≤ round f r := by
  have nearer := nearest_mono bits h
  have positive := bound_pos f
  rcases round_cases f q with ⟨above, eq⟩ | ⟨-, eq⟩ | ⟨within, value⟩
  · rcases round_cases f r with ⟨-, eq'⟩ | ⟨below', -⟩ | ⟨within', -⟩
    · rw [eq, eq']
      rfl
    · linarith
    · linarith [(abs_lt.1 within').2]
  · rw [eq]
    exact (between_infinite (round_ne_nan f r)).1
  · rcases round_cases f r with ⟨-, eq'⟩ | ⟨below', -⟩ | ⟨-, value'⟩
    · rw [eq']
      exact le_infinite value
    · linarith [(abs_lt.1 within).1]
    · exact (le_iff value value').2 nearer

/-- A function of the exact value, rounded; NaN and the infinities are kept. -/
def along (g : Rat → Rat) : Binary f → Binary f
  | nan => nan
  | infinite negative => infinite negative
  | negativeZero => round f (g 0)
  | finite q => round f (g q)

theorem along_eq (g : Rat → Rat) (hx : x.rat? = some a) : x.along g = round f (g a) := by
  cases x <;> cases hx <;> rfl

theorem along_ne_nan {g : Rat → Rat} (h : x ≠ .nan) : x.along g ≠ .nan := by
  cases x with
  | nan => exact absurd rfl h
  | infinite negative => exact h
  | negativeZero | finite => exact round_ne_nan f _

theorem along_mono (bits : 1 ≤ f.precision) {g : Rat → Rat} (mono : ∀ a b, a ≤ b → g a ≤ g b)
    (h : x ≤ y) : x.along g ≤ y.along g := by
  rcases le_cases h with ⟨rfl, number⟩ | ⟨number, rfl⟩ | ⟨a, b, hx, hy, le⟩
  · exact (between_infinite (along_ne_nan number)).1
  · exact (between_infinite (along_ne_nan number)).2
  · rw [along_eq g hx, along_eq g hy]
    exact round_mono bits (mono a b le)

variable {c : Rat}

theorem mul_finite (positive : 0 < c) (x : Binary f) : x * finite c = x.along (· * c) := by
  cases x with
  | nan => simp [HMul.hMul, Mul.mul, mul, rat?, along]
  | infinite negative =>
    show mul _ _ = _
    simp [mul, rat?, along, isNegative, positive.ne', not_lt.2 positive.le]
  | negativeZero | finite => exact mul_eq rfl rfl

theorem div_finite (positive : 0 < c) (x : Binary f) : x / finite c = x.along (· / c) := by
  cases x with
  | nan => rfl
  | infinite negative =>
    show div _ _ = _
    simp [div, rat?, along, isNegative, not_lt.2 positive.le]
  | negativeZero | finite => exact div_eq rfl rfl positive.ne'

theorem sub_finite (nonzero : c ≠ 0) (x : Binary f) : x - finite c = x.along (· - c) := by
  have negated : (finite c : Binary f).neg = finite (-c) := if_neg nonzero
  cases x with
  | nan => rfl
  | infinite negative =>
    show add _ (neg _) = _
    rw [negated]
    cases negative <;> rfl
  | negativeZero | finite => exact sub_eq rfl rfl

/-! ## Integer parts -/

theorem toIntWithin_bounds {part : Rat → Int} {low high : Int} (nonpos : low ≤ 0)
    (nonneg : 0 ≤ high) (x : Binary f) :
    low ≤ x.toIntWithin part low high ∧ x.toIntWithin part low high ≤ high := by
  unfold toIntWithin
  split <;> omega

theorem toIntWithin_bounds_32 (x : Binary f) :
    -2 ^ 31 ≤ x.toIntWithin Rounding.towardZero (-2 ^ 31) (2 ^ 31 - 1) ∧
      x.toIntWithin Rounding.towardZero (-2 ^ 31) (2 ^ 31 - 1) ≤ 2 ^ 31 - 1 :=
  x.toIntWithin_bounds (by decide) (by decide)

theorem toIntWithin_eq {part : Rat → Int} (zero : part 0 = 0) (low high : Int)
    (hx : x.rat? = some a) : x.toIntWithin part low high = max low (min high (part a)) := by
  cases x with
  | nan | infinite => cases hx
  | negativeZero =>
    cases hx
    rw [zero]
    rfl
  | finite q =>
    cases hx
    rfl

theorem toInt_toInt32_eq (x : Binary f) :
    x.toInt32.toInt = x.toIntWithin Rounding.towardZero (-2 ^ 31) (2 ^ 31 - 1) := by
  have low : Int32.minValue.toInt = -2 ^ 31 := rfl
  have high : Int32.maxValue.toInt = 2 ^ 31 - 1 := rfl
  have bounds := x.toIntWithin_bounds_32
  rw [toInt32, low, high, Int32.toInt_ofInt_of_le] <;> omega

theorem toInt32_congr (hx : x.rat? = some a) (hy : y.rat? = some a) : x.toInt32 = y.toInt32 := by
  have zero : Rounding.towardZero 0 = 0 := by decide +kernel
  rw [← Int32.toInt_inj, toInt_toInt32_eq, toInt_toInt32_eq, toIntWithin_eq zero _ _ hx,
    toIntWithin_eq zero _ _ hy]

theorem toInt32_mono (h : x ≤ y) : x.toInt32.toInt ≤ y.toInt32.toInt := by
  have bounds (z : Binary f) := z.toIntWithin_bounds_32
  rw [toInt_toInt32_eq, toInt_toInt32_eq]
  rcases le_cases h with ⟨rfl, -⟩ | ⟨-, rfl⟩ | ⟨a, b, hx, hy, le⟩
  · exact (bounds y).1
  · exact (bounds x).2
  · have zero : Rounding.towardZero 0 = 0 := by decide +kernel
    have parts := Rounding.towardZero_mono le
    rw [toIntWithin_eq zero _ _ hx, toIntWithin_eq zero _ _ hy]
    omega

end Binary

end Viewfinder
