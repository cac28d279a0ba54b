import Viewfinder.Image.Crop
import Viewfinder.Image.Still
import Viewfinder.Proofs.Precision
import Viewfinder.Proofs.RightAngles
import Viewfinder.Proofs.Stills

/-!
# Where the visible part of a frame lies

The part of a frame that a viewport shows is computed in single precision and then cut to whole
pixels. The factor between the two comes out next to the exact one (`Fits`), whichever side of the
viewport it was taken from, and half a length next to half of the exact one, within a sixteenth of a
pixel. So the edges are off by less than the pixels that the cutting itself takes (`Centred`).
-/

namespace Viewfinder

open Binary Single

/-- Edges at the distances `w` and `h`, which have a place in 32 bits. -/
structure Rect.Spans (r : Rect) (w h : Int) : Prop where
  width : r.right.toInt - r.left.toInt = w
  height : r.bottom.toInt - r.top.toInt = h
  wide : 0 < w ∧ w < 2 ^ 31
  high : 0 < h ∧ h < 2 ^ 31

namespace Rect.Spans

variable {r : Rect} {w h : Int}

theorem transposed (spans : r.Spans w h) : r.transposed.Spans h w :=
  ⟨spans.height, spans.width, spans.high, spans.wide⟩

theorem measured (spans : r.Spans w h) : r.Measured := by
  obtain ⟨width, height, wide, high⟩ := spans
  exact ⟨by omega, by omega⟩

theorem sides (spans : r.Spans w h) :
    r.width = some (.ofInt w) ∧ r.height = some (.ofInt h) := by
  obtain ⟨width, height, wide, high⟩ := spans
  rw [Rect.width_eq_some_iff, Rect.height_eq_some_iff, width, height]
  exact ⟨Int32.toInt_ofInt_of_le (by omega) (by omega), Int32.toInt_ofInt_of_le (by omega) (by omega)⟩

theorem isEmpty (spans : r.Spans w h) : r.isEmpty = some false := by
  rw [Rect.isEmpty_eq_some_iff, spans.width, spans.height]
  exact ⟨spans.measured, iff_of_true rfl ⟨spans.wide.1, spans.high.1⟩⟩

end Rect.Spans

namespace Size

variable {s : Size} {w h : Int}

/-- Sides that are positive and have 16 bits. -/
def Short (s : Size) : Prop :=
  (0 < s.width.toNat ∧ s.width.toNat < 2 ^ 16) ∧ 0 < s.height.toNat ∧ s.height.toNat < 2 ^ 16

/-- The size of a frame of size `s` after a turn. -/
def turned (s : Size) (rotation : UInt32) : Size := if rotation % 180 = 0 then s else s.transposed

/-- The largest factor by which lengths `w` and `h` can be taken and stay within the sides. -/
def scaleOf (s : Size) (w h : Int) : Rat := min (s.width.toNat / w) (s.height.toNat / h)

theorem le_scaleOf_iff (hw : 0 < w) (hh : 0 < h) {k : Rat} :
    k ≤ s.scaleOf w h ↔ k * w ≤ s.width.toNat ∧ k * h ≤ s.height.toNat := by
  have hw : (0 : Rat) < w := by exact_mod_cast hw
  have hh : (0 : Rat) < h := by exact_mod_cast hh
  rw [scaleOf, le_min_iff, le_div_iff₀ hw, le_div_iff₀ hh]

theorem scaleOf_transposed (s : Size) (w h : Int) : s.transposed.scaleOf w h = s.scaleOf h w :=
  min_comm _ _

theorem Short.moderate (short : s.Short) : s.Moderate := by
  unfold Short at short
  unfold Moderate
  omega

theorem Short.isEmpty (short : s.Short) : s.isEmpty = false := by
  unfold Short at short
  simp only [Size.isEmpty, Bool.or_eq_false_iff, beq_eq_false_iff_ne, ne_eq, ← UInt32.toNat_inj,
    UInt32.toNat_zero]
  omega

end Size

/-! ## The factor -/

/-- A factor that stands for `s`, or for a number that is hardly above it. -/
def Fits (scale : Single) (s : Rat) : Prop :=
  ∃ σ, Close 3 scale σ ∧ 1 / 2 ^ 31 ≤ σ ∧ s ≤ σ ∧ (1 - 6 * roundoff) * σ ≤ s

/-- A quotient of a side of a frame and one of a viewport. -/
theorem close_ratio {n v : Int} (side : 0 < n ∧ n < 2 ^ 16) (length : 0 < v ∧ v < 2 ^ 31) :
    Close 3 (ofInt n / ofInt v) (n / v) ∧ (1 / 2 ^ 31 : Rat) ≤ n / v ∧ (n / v : Rat) ≤ 2 ^ 16 := by
  have n0 : (1 : Rat) ≤ n := by exact_mod_cast side.1
  have n1 : (n : Rat) ≤ 2 ^ 16 := by exact_mod_cast side.2.le
  have v0 : (1 : Rat) ≤ v := by exact_mod_cast length.1
  have v1 : (v : Rat) ≤ 2 ^ 31 := by exact_mod_cast length.2.le
  have least : (1 / 2 ^ 31 : Rat) ≤ n / v := div_le_div₀ (by linarith) n0 (by linarith) v1
  have most : (n / v : Rat) ≤ 2 ^ 16 := by
    rw [div_le_iff₀ (by linarith)]
    linarith
  have usual : Usual (n / v) := ⟨le_trans (by norm_num) least, most.trans (by norm_num)⟩
  have close := (Close.of_eq (rat?_ofInt (by omega) (by omega))).div
    (close_ofInt length.1 length.2.le) (by decide) (by decide) (by linarith) (by linarith) usual
  exact ⟨close, least, most⟩

/-- The factor `scale` was taken from a side `n` and a length `v`, and their exact quotient is hardly
above `s`. -/
structure Taken (scale : Single) (s : Rat) (n : Nat) (v : Int) : Prop where
  quotient : scale = ofInt n / ofInt v
  almost : (1 - 6 * roundoff) * (n / v) ≤ s

theorem Taken.fits {scale : Single} {s : Rat} {n : Nat} {v : Int} (taken : Taken scale s n v)
    (side : 0 < n ∧ n < 2 ^ 16) (length : 0 < v ∧ v < 2 ^ 31) (below : s ≤ n / v) :
    Fits scale s := by
  obtain ⟨close, least, -⟩ := close_ratio (n := n) ⟨by omega, by omega⟩ length
  rw [taken.quotient]
  exact ⟨_, close, least, below, taken.almost⟩

/-- The factor is taken from the width if the height then fits as far as single precision can tell,
so it is hardly above the exact one even if it is the wrong one of the two. -/
theorem fittingScale_cases {s : Size} (short : s.Short) {w h : Int} (wide : 0 < w ∧ w < 2 ^ 31)
    (high : 0 < h ∧ h < 2 ^ 31) :
    let scale : Single :=
      fittingScale (ofInt s.width.toNat) (ofInt s.height.toNat) (ofInt w) (ofInt h)
    Taken scale (s.scaleOf w h) s.width.toNat w ∨ Taken scale (s.scaleOf w h) s.height.toNat h := by
  intro scale
  obtain ⟨⟨sw0, sw1⟩, sh0, sh1⟩ := short
  obtain ⟨acrossClose, acrossLeast, acrossMost⟩ :=
    close_ratio (n := s.width.toNat) ⟨by omega, by omega⟩ wide
  push_cast at acrossClose acrossLeast acrossMost
  have h0 : (1 : Rat) ≤ h := by exact_mod_cast high.1
  have h1 : (h : Rat) ≤ 2 ^ 31 := by exact_mod_cast high.2.le
  -- the height that goes with the width, and how the computed one compares
  have usual : Usual (h * (s.width.toNat / w)) := by
    constructor
    · calc (1 / 2 ^ 100 : Rat) ≤ 1 * (1 / 2 ^ 31) := by norm_num
        _ ≤ h * (s.width.toNat / w) := by gcongr
    · calc (h * (s.width.toNat / w) : Rat) ≤ 2 ^ 31 * 2 ^ 16 := by gcongr
        _ ≤ 2 ^ 100 := by norm_num
  obtain ⟨r, hr, low, above⟩ := (close_ofInt high.1 high.2.le).mul acrossClose (by decide)
    (by decide) (by linarith) (lt_of_lt_of_le (by norm_num) acrossLeast) usual
  have side : (ofInt (s.height.toNat : Int) : Single).rat? = some (s.height.toNat : Rat) :=
    rat?_ofInt (by omega) (by omega)
  have part : 0 ≤ 1 - 6 * roundoff ∧ 1 - 6 * roundoff ≤ 1 ∧
      (1 - 6 * roundoff) * (1 + 6 * roundoff) ≤ 1 := by
    norm_num [roundoff]
  push_cast at low above
  by_cases exceeds : (ofInt (s.height.toNat : Int) : Single) <
      ofInt h * (ofInt s.width.toNat / ofInt w)
  · refine .inr ⟨if_pos exceeds, ?_⟩
    rw [lt_iff side hr] at exceeds
    have bound : (s.height.toNat / h : Rat) ≤ (1 + 6 * roundoff) * (s.width.toNat / w) := by
      rw [div_le_iff₀ (by linarith)]
      linarith
    refine le_min ?_ ?_
    · calc (1 - 6 * roundoff) * (s.height.toNat / h : Rat)
          ≤ (1 - 6 * roundoff) * ((1 + 6 * roundoff) * (s.width.toNat / w)) :=
            mul_le_mul_of_nonneg_left bound part.1
        _ = (1 - 6 * roundoff) * (1 + 6 * roundoff) * (s.width.toNat / w) := by ring
        _ ≤ s.width.toNat / w := mul_le_of_le_one_left (by positivity) part.2.2
    · exact mul_le_of_le_one_left (by positivity) part.2.1
  · refine .inl ⟨if_neg exceeds, ?_⟩
    rw [lt_iff side hr, not_lt] at exceeds
    refine le_min ?_ ?_
    · exact mul_le_of_le_one_left (by positivity) part.2.1
    · rw [le_div_iff₀ (by linarith)]
      linarith

theorem fits_fittingScale {s : Size} (short : s.Short) {w h : Int} (wide : 0 < w ∧ w < 2 ^ 31)
    (high : 0 < h ∧ h < 2 ^ 31) :
    Fits (fittingScale (ofInt s.width.toNat) (ofInt s.height.toNat) (ofInt w) (ofInt h))
      (s.scaleOf w h) := by
  rcases fittingScale_cases short wide high with taken | taken
  · exact taken.fits short.1 wide (min_le_left _ _)
  · exact taken.fits short.2 high (min_le_right _ _)

/-- Half a length is missed by a fixed part of it, as long as all of it fits a side. -/
theorem Fits.half_close {scale : Single} {s : Rat} (fits : Fits scale s) {v : Int}
    (length : 0 < v ∧ v < 2 ^ 31) (within : s * v ≤ 2 ^ 16) :
    ∃ e, ((ofInt v * scale / 2 : Single)).rat? = some e ∧
      (1 - 16 * roundoff) * (s * v / 2) ≤ e ∧ e ≤ (1 + 16 * roundoff) * (s * v / 2) := by
  obtain ⟨σ, close, least, le, almost⟩ := fits
  have v0 : (1 : Rat) ≤ v := by exact_mod_cast length.1
  -- the length that the factor stands for is hardly longer than the exact one
  have shorter : s * v ≤ v * σ := by
    rw [mul_comm (v : Rat)]
    gcongr
  have longer : (v * σ : Rat) * (1 - 6 * roundoff) ≤ s * v := by
    calc (v * σ : Rat) * (1 - 6 * roundoff) = (1 - 6 * roundoff) * σ * v := by ring
      _ ≤ s * v := by gcongr
  have low : (1 / 2 ^ 31 : Rat) ≤ v * σ := by
    calc (1 / 2 ^ 31 : Rat) = 1 * (1 / 2 ^ 31) := by norm_num
      _ ≤ v * σ := by gcongr
  have high : (v * σ : Rat) ≤ 2 ^ 17 := by
    rw [roundoff] at longer
    linarith
  have whole := (close_ofInt length.1 length.2.le).mul close (by decide) (by decide)
    (by linarith) (lt_of_lt_of_le (by norm_num) least)
    ⟨le_trans (by norm_num) low, high.trans (by norm_num)⟩
  have two : Close 0 (2 : Single) 2 := .of_eq (rat?_ofInt (n := 2) (by decide) (by decide))
  obtain ⟨e, he, lower, upper⟩ := whole.div two (by decide) (by decide) (by linarith)
    (by norm_num) ⟨by linarith, by linarith⟩
  rw [roundoff] at lower upper longer ⊢
  push_cast at lower upper
  exact ⟨e, he, by linarith, by linarith⟩

/-- So it is computed to a sixteenth. -/
theorem Fits.half {scale : Single} {s : Rat} (fits : Fits scale s) {v : Int}
    (length : 0 < v ∧ v < 2 ^ 31) (within : s * v ≤ 2 ^ 16) :
    ∃ e, ((ofInt v * scale / 2 : Single)).rat? = some e ∧ 0 ≤ e ∧ |e - s * v / 2| ≤ 1 / 16 := by
  obtain ⟨e, he, lower, upper⟩ := fits.half_close length within
  have nonneg : 0 ≤ s * v := by
    obtain ⟨σ, -, least, -, almost⟩ := fits
    have part : (0 : Rat) ≤ 1 - 6 * roundoff := by norm_num [roundoff]
    have factor : 0 ≤ s := (mul_nonneg part (le_trans (by norm_num) least)).trans almost
    exact mul_nonneg factor (by exact_mod_cast length.1.le)
  rw [roundoff] at lower upper
  exact ⟨e, he, by linarith, abs_le.2 ⟨by linarith, by linarith⟩⟩

/-! ## The edges -/

/-- `low` and `high` cut a length `t` out of the middle of an axis with `n` pixels, up to what whole
pixels allow. -/
structure Centred (n : Int) (t : Rat) (low high : Int) : Prop where
  inside : 0 ≤ low
  ordered : low ≤ high
  within : high ≤ n
  middle : |low + high - n| ≤ 2
  length : |((high - low : Int) : Rat) - t| < 2

/-- `r` is less than a pixel away from `q`, with no pixel's edge between them. -/
structure Beside (q r : Rat) : Prop where
  near : |r - q| ≤ 1 / 100
  above (n : Int) : n ≤ q → n ≤ r
  below (n : Int) : q ≤ n → r ≤ n

/-- So is every coordinate within 17 bits rounded. -/
theorem beside_nearest {q : Rat} (h : |q| < 2 ^ 17) : Beside q (nearest .single q) := by
  have fine : place .single |q| ≤ 0 := place_nonpos (h.trans (by norm_num))
  refine ⟨?_, fun n => le_nearest fine, fun n => nearest_le fine⟩
  refine (abs_nearest_sub_le_of_lt (f := .single) (k := 17) (by decide) (by decide)
    (by exact_mod_cast h)).trans ?_
  rw [show (17 : Int) - BinaryFormat.single.precision = -7 from rfl]
  norm_num

/-- Such a coordinate has a place on a 32-bit axis. -/
theorem toInt_toInt32_round {q : Rat} (h : |q| < 2 ^ 17) :
    (Binary.round .single q).toInt32.toInt = Rounding.towardZero (nearest .single q) := by
  have beside := beside_nearest h
  obtain ⟨low, high⟩ := abs_lt.1 h
  have least : -2 ^ 17 ≤ Rounding.towardZero (nearest .single q) :=
    Rounding.le_towardZero (beside.above _ (by push_cast; exact low.le))
  have most : Rounding.towardZero (nearest .single q) ≤ 2 ^ 17 :=
    Rounding.towardZero_le (beside.below _ (by push_cast; exact high.le))
  exact toInt_toInt32 (rat?_round (h.trans (by norm_num))) (by omega) (by omega)

/-- The edges of half the length on each side of the middle, which is the whole number below. -/
theorem centred_of_beside {n : Nat} {c : Int} {e t a b : Rat} (middle : c = (n / 2 : Nat))
    (nonneg : 0 ≤ e) (near : |e - t / 2| ≤ 1 / 16) (within : t ≤ n) (left : Beside (c - e) a)
    (right : Beside (c + e) b) : Centred n t (Rounding.towardZero a) (Rounding.towardZero b) := by
  obtain ⟨nearLow, nearHigh⟩ := abs_le.1 near
  obtain ⟨aNearLow, aNearHigh⟩ := abs_le.1 left.near
  obtain ⟨bNearLow, bNearHigh⟩ := abs_le.1 right.near
  have cNonneg : 0 ≤ c := by omega
  have cLow : (n : Rat) ≤ 2 * c + 1 := by exact_mod_cast (by omega : (n : Int) ≤ 2 * c + 1)
  have cHigh : 2 * (c : Rat) ≤ n := by exact_mod_cast (by omega : 2 * c ≤ n)
  -- the pixels around `e` give those around both edges
  obtain ⟨k, hk⟩ : ∃ k : Int, k = e.floor := ⟨_, rfl⟩
  have kLow : (k : Rat) ≤ e := hk ▸ Rat.floor_le e
  have kHigh : e < (k + 1 : Int) := hk ▸ Rat.lt_floor_add_one e
  have aLow : ((c - k - 1 : Int) : Rat) ≤ a := left.above _ (by push_cast at *; linarith)
  have aHigh : a ≤ ((c - k : Int) : Rat) := left.below _ (by push_cast; linarith)
  have bLow : ((c + k : Int) : Rat) ≤ b := right.above _ (by push_cast; linarith)
  have bHigh : b ≤ ((c + k + 1 : Int) : Rat) := right.below _ (by push_cast at *; linarith)
  have aMiddle : a ≤ c := left.below c (by linarith)
  have bMiddle : (c : Rat) ≤ b := right.above c (by linarith)
  have bNonneg : 0 ≤ b := le_trans (by exact_mod_cast cNonneg) bMiddle
  have outermost : -1 < a := by linarith
  have inside := Rounding.towardZero_nonneg outermost
  have lMiddle := Rounding.towardZero_le aMiddle
  have lLeast := Rounding.le_towardZero aLow
  have lMost := Rounding.towardZero_le aHigh
  have rMiddle := Rounding.le_towardZero bMiddle
  have rLeast := Rounding.le_towardZero bLow
  have rMost := Rounding.towardZero_le bHigh
  have rLow := Rounding.towardZero_le_self bNonneg
  have ⟨lLow, _⟩ := abs_lt.1 (Rounding.abs_towardZero_sub_lt a)
  have ⟨rHigh, _⟩ := abs_lt.1 (Rounding.abs_towardZero_sub_lt b)
  -- a left edge that is outside comes to the outermost pixel, to which it is close
  have lHigh : (Rounding.towardZero a : Rat) < a + 3 / 5 := by
    rcases le_or_gt 0 a with nonneg | negative
    · linarith [Rounding.towardZero_le_self nonneg]
    · have zero : (Rounding.towardZero a : Rat) ≤ (0 : Int) :=
        Int.cast_le.2 (Rounding.towardZero_le (by push_cast; exact negative.le))
      push_cast at zero
      linarith
  refine ⟨inside, lMiddle.trans rMiddle, ?_, abs_le.2 ⟨by omega, by omega⟩, ?_⟩
  · have : (Rounding.towardZero b : Rat) < n + 1 := by linarith
    exact Int.lt_add_one_iff.1 (by exact_mod_cast this)
  · push_cast
    exact abs_lt.2 ⟨by linarith, by linarith⟩

/-- The edges at the distance `half` from the middle `c`. -/
theorem edges_eq {n : Nat} {c : Int} {half : Single} {e : Rat} (side : n < 2 ^ 16)
    (middle : c = (n / 2 : Nat)) (value : half.rat? = some e) (nonneg : 0 ≤ e)
    (short : e ≤ n / 2 + 1 / 16) :
    ((ofInt c - half : Single).toInt32.toInt = Rounding.towardZero (nearest .single (c - e)) ∧
        Beside (c - e) (nearest .single (c - e))) ∧
      (ofInt c + half : Single).toInt32.toInt = Rounding.towardZero (nearest .single (c + e)) ∧
        Beside (c + e) (nearest .single (c + e)) := by
  have center : (ofInt c : Single).rat? = some (c : Rat) := rat?_ofInt (by omega) (by omega)
  have cLow : (0 : Rat) ≤ c := by exact_mod_cast (by omega : 0 ≤ c)
  have cHigh : (c : Rat) ≤ 2 ^ 15 := by exact_mod_cast (by omega : c ≤ 2 ^ 15)
  have nHigh : (n : Rat) ≤ 2 ^ 16 := by exact_mod_cast side.le
  have left : |c - e| < 2 ^ 17 := abs_lt.2 ⟨by linarith, by linarith⟩
  have right : |c + e| < 2 ^ 17 := abs_lt.2 ⟨by linarith, by linarith⟩
  rw [sub_eq center value, add_eq center value]
  exact ⟨⟨toInt_toInt32_round left, beside_nearest left⟩, toInt_toInt32_round right,
    beside_nearest right⟩

theorem centred_of_half {n : Nat} {half : Single} {e t : Rat} (side : n < 2 ^ 16)
    (value : half.rat? = some e) (nonneg : 0 ≤ e) (near : |e - t / 2| ≤ 1 / 16) (within : t ≤ n) :
    Centred n t ((ofInt (n / 2 : Nat) - half : Single).toInt32.toInt)
      ((ofInt (n / 2 : Nat) + half : Single).toInt32.toInt) := by
  obtain ⟨c, hc⟩ : ∃ c : Int, c = (n / 2 : Nat) := ⟨_, rfl⟩
  obtain ⟨-, nearHigh⟩ := abs_le.1 near
  obtain ⟨⟨low, left⟩, high, right⟩ := edges_eq side hc value nonneg (by linarith)
  rw [← hc, low, high]
  exact centred_of_beside hc nonneg near within left right

/-! ## The part -/

/-- The sides of a frame that is turned by right angles. -/
theorem Raster.rotate_turned {r : Raster} {s : Size} {rotation : UInt32}
    (quarters : rotation % 90 = 0) (width : r.width = s.width.toNat)
    (height : r.height = s.height.toNat) :
    (r.rotate rotation).width = (s.turned rotation).width.toNat ∧
      (r.rotate rotation).height = (s.turned rotation).height.toNat := by
  have exchanged := isQuarterTurn_iff (dvd_toNat_of_mod quarters)
  rw [(r.sides_rotate rotation).1, (r.sides_rotate rotation).2, width, height]
  by_cases even : rotation % 180 = 0
  · rw [if_neg (mt exchanged.1 (not_not.2 even)), if_neg (mt exchanged.1 (not_not.2 even)),
      Size.turned, if_pos even]
    exact ⟨rfl, rfl⟩
  · rw [if_pos (exchanged.2 even), if_pos (exchanged.2 even), Size.turned, if_neg even]
    exact ⟨rfl, rfl⟩

namespace visiblePart

variable {preview : Size} {visible : Rect} {w h : Int}

theorem part_eq (short : preview.Short) (spans : visible.Spans w h) :
    part preview visible = some (fitted preview (ofInt w) (ofInt h)) := by
  obtain ⟨wide, high⟩ := spans.sides
  have width : (Int32.ofInt w).toInt = w :=
    Int32.toInt_ofInt_of_le (by have := spans.wide.1; omega) (by have := spans.wide.2; omega)
  have height : (Int32.ofInt h).toInt = h :=
    Int32.toInt_ofInt_of_le (by have := spans.high.1; omega) (by have := spans.high.2; omega)
  simp only [part, spans.isEmpty, short.isEmpty, wide, high, Option.bind_eq_bind, Option.bind_some,
    Bool.or_self, Bool.false_eq_true, if_false, Option.pure_def, width, height]

/-- The edges lie at half a length before and after the middle. -/
theorem fitted_eq (preview : Size) (w h : Int) :
    let scale : Single := fittingScale (ofInt preview.width.toNat) (ofInt preview.height.toNat)
      (ofInt w) (ofInt h)
    fitted preview (ofInt w) (ofInt h) =
      ⟨(ofInt (preview.width.toNat / 2 : Nat) - ofInt w * scale / 2 : Single).toInt32,
        (ofInt (preview.height.toNat / 2 : Nat) - ofInt h * scale / 2 : Single).toInt32,
        (ofInt (preview.width.toNat / 2 : Nat) + ofInt w * scale / 2 : Single).toInt32,
        (ofInt (preview.height.toNat / 2 : Nat) + ofInt h * scale / 2 : Single).toInt32⟩ := by
  unfold fitted
  dsimp only
  rw [UInt32.toNat_div, UInt32.toNat_div]
  rfl

theorem fitted_centred (short : preview.Short) (spans : visible.Spans w h) :
    let r := fitted preview (ofInt w) (ofInt h)
    Centred preview.width.toNat (preview.scaleOf w h * w) r.left.toInt r.right.toInt ∧
      Centred preview.height.toNat (preview.scaleOf w h * h) r.top.toInt r.bottom.toInt := by
  obtain ⟨wide, high⟩ := (Size.le_scaleOf_iff spans.wide.1 spans.high.1).1
    (le_refl (preview.scaleOf w h))
  have fits := fits_fittingScale short spans.wide spans.high
  have wideBound : (preview.width.toNat : Rat) ≤ 2 ^ 16 := by exact_mod_cast short.1.2.le
  have highBound : (preview.height.toNat : Rat) ≤ 2 ^ 16 := by exact_mod_cast short.2.2.le
  obtain ⟨e, he, e0, eNear⟩ := fits.half spans.wide (wide.trans wideBound)
  obtain ⟨d, hd, d0, dNear⟩ := fits.half spans.high (high.trans highBound)
  rw [fitted_eq]
  exact ⟨centred_of_half short.1.2 he e0 eNear wide, centred_of_half short.2.2 hd d0 dNear high⟩

/-- For a frame that is turned by a quarter, the axes are exchanged before and after. -/
theorem eq_some (rotation : UInt32) (short : preview.Short) (spans : visible.Spans w h) :
    visiblePart preview visible rotation = some (if rotation % 180 = 0 then
      fitted preview (ofInt w) (ofInt h) else (fitted preview (ofInt h) (ofInt w)).transposed) := by
  unfold visiblePart
  split
  · exact part_eq short spans
  · rw [part_eq short spans.transposed]
    rfl

theorem centred (rotation : UInt32) (short : preview.Short) (spans : visible.Spans w h) :
    ∃ r, visiblePart preview visible rotation = some r ∧
      let turned := preview.turned rotation
      Centred turned.width.toNat (turned.scaleOf w h * w) r.left.toInt r.right.toInt ∧
        Centred turned.height.toNat (turned.scaleOf w h * h) r.top.toInt r.bottom.toInt := by
  refine ⟨_, eq_some rotation short spans, ?_⟩
  unfold Size.turned
  split
  · exact fitted_centred short spans
  · dsimp only
    rw [Size.scaleOf_transposed]
    exact (fitted_centred short spans.transposed).symm

end visiblePart

/-- The part that a viewport shows lies within the turned frame, so that cutting it out of the frame
takes all of it. It is centred there, and has the size of the largest rectangle of the viewport's
aspect ratio that fits, each up to what whole pixels allow. -/
theorem visiblePart_exact (preview : Size) (visible : Rect) (rotation : UInt32) {w h : Int}
    (short : preview.Short) (spans : visible.Spans w h) (quarters : rotation % 90 = 0) :
    let turned := preview.turned rotation
    let s : Rat := min (turned.width.toNat / w) (turned.height.toNat / h)
    ∃ r, visiblePart preview visible rotation = some r ∧
      (0 ≤ r.left.toInt ∧ r.left.toInt ≤ r.right.toInt ∧ r.right.toInt ≤ turned.width.toNat) ∧
      (0 ≤ r.top.toInt ∧ r.top.toInt ≤ r.bottom.toInt ∧ r.bottom.toInt ≤ turned.height.toNat) ∧
      |r.left.toInt + r.right.toInt - turned.width.toNat| ≤ 2 ∧
      |r.top.toInt + r.bottom.toInt - turned.height.toNat| ≤ 2 ∧
      |((r.right.toInt - r.left.toInt : Int) : Rat) - s * w| < 2 ∧
      |((r.bottom.toInt - r.top.toInt : Int) : Rat) - s * h| < 2 ∧
      ∀ (f : Frame) (decoded : Raster), f.size = preview → f.decode = .ok decoded →
        (decoded.rotate rotation).width = turned.width.toNat ∧
        (decoded.rotate rotation).height = turned.height.toNat ∧
        ∃ empty, r.isEmpty = some empty ∧
          (empty = false → r.intersect? (decoded.rotate rotation).bounds = some (some r)) := by
  intro turned s
  obtain ⟨r, part, across, down⟩ := visiblePart.centred rotation short spans
  refine ⟨r, part, ⟨across.inside, across.ordered, across.within⟩,
    ⟨down.inside, down.ordered, down.within⟩, across.middle, down.middle, across.length,
    down.length, fun f decoded size made => ?_⟩
  subst size
  obtain ⟨-, read⟩ := (f.decode_cases short.moderate).resolve_left fun failed =>
    nomatch made.symm.trans failed.2
  obtain rfl := Except.ok.inj (made.symm.trans read)
  obtain ⟨wide, high⟩ := Raster.rotate_turned (s := f.size) quarters
    (Raster.width_generate _ _ f.color) (Raster.height_generate _ _ f.color)
  have moderate : Raster.Moderate (.generate f.size.width.toNat f.size.height.toNat f.color) :=
    short.moderate
  obtain ⟨right, bottom⟩ := (moderate.rotate rotation).toInt_sides
  have ordered : r.Ordered :=
    ⟨Int32.le_iff_toInt_le.2 across.ordered, Int32.le_iff_toInt_le.2 down.ordered⟩
  refine ⟨wide, high, _, (ordered.measured across.inside down.inside).isEmpty_eq, fun extent => ?_⟩
  refine Rect.intersect?_of_contains ?_
    ((ordered.measured across.inside down.inside).isEmpty_eq.trans (congrArg some extent))
  simp only [Rect.contains, Bool.and_eq_true, decide_eq_true_eq, Int32.le_iff_toInt_le, right,
    bottom, wide, high]
  exact ⟨⟨⟨across.inside, down.inside⟩, across.within⟩, down.within⟩

/-- A square viewport before a frame with odd sides, turned by a quarter. -/
theorem visiblePart_exact_turned :
    visiblePart ⟨641, 481⟩ ⟨10, 20, 110, 120⟩ 90 = some ⟨0, 79, 480, 560⟩ ∧
      ∀ (f : Frame) (decoded : Raster), f.size = ⟨641, 481⟩ → f.decode = .ok decoded →
        Rect.intersect? ⟨0, 79, 480, 560⟩ (decoded.rotate 90).bounds =
          some (some ⟨0, 79, 480, 560⟩) := by
  have part : visiblePart ⟨641, 481⟩ ⟨10, 20, 110, 120⟩ 90 = some ⟨0, 79, 480, 560⟩ := by
    decide +kernel
  refine ⟨part, fun f decoded size made => ?_⟩
  obtain ⟨r, same, -, -, -, -, -, -, cut⟩ := visiblePart_exact ⟨641, 481⟩
    ⟨10, 20, 110, 120⟩ 90 (w := 100) (h := 100)
    (by unfold Size.Short; decide) ⟨by decide, by decide, by decide, by decide⟩ (by decide)
  obtain rfl := Option.some.inj (part.symm.trans same)
  obtain ⟨-, -, empty, told, all⟩ := cut f decoded size made
  exact all (Option.some.inj (told.symm.trans (by decide)))

end Viewfinder
