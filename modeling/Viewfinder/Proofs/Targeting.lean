import Viewfinder.Camera.FocusArea
import Viewfinder.Proofs.Framing
import Viewfinder.Proofs.Ordering
import Viewfinder.Settings.Basic

/-!
# The squares around a tap

A square that is longer than the hardware's space is cut to it (`side`), and one that would stick
out is moved to the edge, which of all places in the space is the nearest (`Settled`). Two squares
at one centre stay nested under this (`Settled.nested`), and the metering square is not the smaller
one because single precision keeps order (`side_mono`).
-/

namespace Viewfinder

open Binary Single

/-! ## Lengths -/

namespace Single

variable {n : Int}

theorem rat?_ofInt_nearest (low : -2 ^ 31 ≤ n) (high : n ≤ 2 ^ 31) :
    (ofInt n : Single).rat? = some (nearest .single n) := by
  have low : (-2 ^ 31 : Rat) ≤ n := by exact_mod_cast low
  have high : (n : Rat) ≤ 2 ^ 31 := by exact_mod_cast high
  exact rat?_round (abs_lt.2 ⟨by linarith, by linarith⟩)

theorem toInt_toInt32_ofInt (low : -2 ^ 24 < n) (high : n < 2 ^ 24) :
    (ofInt n : Single).toInt32.toInt = n := by
  have whole : Rounding.towardZero n = n :=
    le_antisymm (Rounding.towardZero_le le_rfl) (Rounding.le_towardZero le_rfl)
  rw [toInt_toInt32 (rat?_ofInt low high) (by omega) (by omega), whole]

theorem ofInt_mono {m : Int} (h : m ≤ n) : (ofInt m : Single) ≤ ofInt n :=
  round_mono (by decide) (by exact_mod_cast h)

theorem abs_nearest_le (low : -2 ^ 31 ≤ n) (high : n ≤ 2 ^ 31) :
    |nearest .single (n : Rat)| ≤ 2 ^ 31 := by
  have edge : nearest .single (2 ^ 31) = 2 ^ 31 := by
    simpa using nearest_multiple (f := .single) (m := 1) (e := (31 : Nat)) (by decide) (by decide)
      (by decide)
  have least :=
    nearest_mono (f := .single) (by decide) (by exact_mod_cast low : (-2 ^ 31 : Rat) ≤ n)
  have most := nearest_mono (f := .single) (by decide) (by exact_mod_cast high : (n : Rat) ≤ 2 ^ 31)
  rw [nearest_neg] at least
  exact abs_le.2 ⟨by linarith, by linarith⟩

/-- What rounding does to a long whole number does not matter where the number is cut. -/
theorem min_toInt32_ofInt (n cut : Int) (nonneg : 0 ≤ n) (hc : 0 ≤ cut)
    (short : cut < 2 ^ 24) : min (ofInt n : Single).toInt32.toInt cut = min n cut := by
  rcases le_or_gt n cut with le | gt
  · rw [toInt_toInt32_ofInt (by omega) (by omega)]
  · have above := toInt32_mono (ofInt_mono gt.le)
    rw [toInt_toInt32_ofInt (by omega) (by omega)] at above
    omega

end Single

namespace FocusMapper

variable {c s : Int32} {scale : Single}

theorem toInt_areaSide (m : FocusMapper) (preview : Size) : (m.areaSide preview).toInt =
    ((max preview.width.toNat preview.height.toNat / max m.areaDivisor.toNat 1 : Nat) : Int).bmod
      (2 ^ 32) := by
  rw [areaSide, ← toNat_max, ← UInt32.toNat_one, ← toNat_max, ← UInt32.toNat_div]
  exact BitVec.toInt_eq_toNat_bmod _

/-- With a divisor that is one, a length that fits 32 bits is the quotient. -/
theorem toInt_areaSide_of_lt {m : FocusMapper} {preview : Size} (divisor : m.areaDivisor ≠ 0)
    (short : max preview.width.toNat preview.height.toNat / m.areaDivisor.toNat < 2 ^ 31) :
    (m.areaSide preview).toInt =
      (max preview.width.toNat preview.height.toNat / m.areaDivisor.toNat : Nat) := by
  have divisor : max m.areaDivisor.toNat 1 = m.areaDivisor.toNat := by
    rw [ne_eq, ← UInt32.toNat_inj, UInt32.toNat_zero] at divisor
    omega
  rw [toInt_areaSide, divisor]
  generalize max preview.width.toNat preview.height.toNat / m.areaDivisor.toNat = n at short
  exact Int.bmod_eq_of_le (by omega) (by omega)

theorem toInt_side (area : Int32) (scale : Single) :
    (side area scale).toInt = min (scale * Binary.ofInt area.toInt).toInt32.toInt 2000 :=
  Rect.toInt_min _ _

theorem toInt_side_one (area : Int32) :
    (side area 1).toInt = min (Binary.ofInt area.toInt : Single).toInt32.toInt 2000 := by
  have one : (1 : Single).rat? = some 1 := rat?_ofInt (by decide) (by decide)
  have rounded := rat?_ofInt_nearest area.le_toInt area.toInt_lt.le
  have within := abs_nearest_le area.le_toInt area.toInt_lt.le
  rw [toInt_side, mul_eq one rounded, one_mul]
  refine congrArg (fun n : Int32 => min n.toInt 2000) (toInt32_congr ?_ rounded)
  rw [Single.rat?_round (within.trans_lt (by norm_num)), nearest_nearest (by decide)]

/-- The metering square is not the smaller one. -/
theorem side_mono {area : Int32} (nonneg : 0 ≤ area.toInt) (h : 1 ≤ scale) :
    0 ≤ (side area 1).toInt ∧ (side area 1).toInt ≤ (side area scale).toInt := by
  rcases nonneg.eq_or_lt with zero | positive
  · -- no length at all is kept, even by an infinite scale
    have nothing (scale : Single) : (side area scale).toInt = 0 := by
      rw [toInt_side, ← zero]
      cases scale with
      | nan | infinite => rfl
      | negativeZero | finite =>
        rw [show (ofInt 0 : Single) = finite 0 from rfl, mul_eq rfl rfl, mul_zero]
        rfl
    rw [nothing, nothing]
    exact ⟨le_rfl, le_rfl⟩
  · obtain ⟨r, value, low, -⟩ := close_ofInt positive area.toInt_lt.le
    have above : 0 < r := by
      refine lt_of_lt_of_le (mul_pos ?_ (by exact_mod_cast positive)) low
      norm_num [roundoff]
    have factor := toInt32_mono (along_mono (by decide) (g := (· * r))
      (fun a b le => mul_le_mul_of_nonneg_right le above.le) h)
    rw [← mul_finite above, ← mul_finite above, ← eq_finite value above.ne'] at factor
    have cut := min_toInt32_ofInt area.toInt 2000 nonneg (by decide) (by decide)
    constructor
    · rw [toInt_side_one, cut]
      omega
    · rw [toInt_side, toInt_side]
      omega

end FocusMapper

/-! ## Places -/

/-- A length starts in the space as near as it can to where it would with its middle at `center`. -/
structure Settled (center length first : Int) : Prop where
  low : -1000 ≤ first
  high : first + length ≤ 1000
  nearest : ∀ p, -1000 ≤ p → p + length ≤ 1000 → p ≠ first →
    |first - (center - length / 2)| < |p - (center - length / 2)|

namespace Settled

variable {center s t a b : Int}

theorem clamped (length : s ≤ 2000) :
    Settled center s (min (max (center - s / 2) (-1000)) (1000 - s)) where
  low := by omega
  high := by omega
  nearest p low high other := by
    simp only [Int.abs_eq_natAbs]
    omega

/-- There is one such place. -/
theorem eq_clamped (h : Settled center s a) :
    a = min (max (center - s / 2) (-1000)) (1000 - s) := by
  by_contra other
  have low := h.low
  have high := h.high
  have farther := h.nearest _ (by omega) (by omega) (Ne.symm other)
  simp only [Int.abs_eq_natAbs] at farther
  omega

/-- At one centre the longer of two lengths spans the shorter, also where the halves are cut to
whole numbers and where the space ends. -/
theorem nested (hs : Settled center s a) (ht : Settled center t b) (h : s ≤ t) :
    b ≤ a ∧ a + s ≤ b + t := by
  have := hs.eq_clamped
  have := ht.eq_clamped
  have := hs.low
  have := ht.high
  omega

end Settled

/-- A square in the space whose edges are as near as they can be to those of the one with its middle
at `x` and `y`. -/
structure Rect.Aimed (r : Rect) (x y side : Int) : Prop where
  width : r.right.toInt = r.left.toInt + side
  height : r.bottom.toInt = r.top.toInt + side
  across : Settled x side r.left.toInt
  down : Settled y side r.top.toInt

namespace FocusMapper

/-- All of the hardware's space. -/
def space : Rect := ⟨spaceMin, spaceMin, spaceMax, spaceMax⟩

variable {c s : Int32} {scale : Single} {r q : Rect} {x y m n : Int}

theorem contains_iff : r.contains q = true ↔
    r.left.toInt ≤ q.left.toInt ∧ r.top.toInt ≤ q.top.toInt ∧
      q.right.toInt ≤ r.right.toInt ∧ q.bottom.toInt ≤ r.bottom.toInt := by
  simp only [Rect.contains, Bool.and_eq_true, decide_eq_true_eq, Int32.le_iff_toInt_le, and_assoc]

theorem space_contains_iff : space.contains r = true ↔ -1000 ≤ r.left.toInt ∧
    -1000 ≤ r.top.toInt ∧ r.right.toInt ≤ 1000 ∧ r.bottom.toInt ≤ 1000 :=
  contains_iff

theorem space_contains (aimed : r.Aimed x y n) : space.contains r = true := by
  rw [space_contains_iff, aimed.width, aimed.height]
  exact ⟨aimed.across.low, aimed.down.low, aimed.across.high, aimed.down.high⟩

theorem contains_of_aimed (hq : q.Aimed x y n) (hr : r.Aimed x y m) (h : n ≤ m) :
    r.contains q = true := by
  have := hq.across.nested hr.across h
  have := hq.down.nested hr.down h
  rw [contains_iff, hq.width, hq.height, hr.width, hr.height]
  omega

theorem toInt_half (s : Int32) : (s / 2).toInt = s.toInt.tdiv 2 :=
  Int32.toInt_div_of_ne_right s 2 (by decide)

/-- Where a side starts; it is computed as long as no difference leaves 32 bits. -/
theorem start_eq_some_iff {first : Int32} : start c s = some first ↔
    (-2 ^ 31 ≤ c.toInt - s.toInt.tdiv 2 ∧ c.toInt - s.toInt.tdiv 2 < 2 ^ 31) ∧
      1000 - s.toInt < 2 ^ 31 ∧
      first.toInt = min (max (c.toInt - s.toInt.tdiv 2) (-1000)) (1000 - s.toInt) := by
  have least : spaceMin.toInt = -1000 := rfl
  have most : spaceMax.toInt = 1000 := rfl
  have below := s.toInt_lt
  simp only [start, Option.bind_eq_bind, Option.bind_eq_some_iff, checked_eq_some_iff,
    Option.pure_def, Option.some.injEq, toInt_half, most]
  constructor
  · rintro ⟨half, hHalf, last, hLast, rfl⟩
    have low := half.le_toInt
    have high := half.toInt_lt
    have bound := last.toInt_lt
    rw [Rect.toInt_min, Rect.toInt_max, hHalf, hLast, least]
    omega
  · rintro ⟨⟨low, high⟩, rest, place⟩
    have half : (Int32.ofInt (c.toInt - s.toInt.tdiv 2)).toInt = c.toInt - s.toInt.tdiv 2 :=
      Int32.toInt_ofInt_of_le (by omega) (by omega)
    have last : (Int32.ofInt (1000 - s.toInt)).toInt = 1000 - s.toInt :=
      Int32.toInt_ofInt_of_le (by omega) (by omega)
    refine ⟨_, half, _, last, ?_⟩
    rw [← Int32.toInt_inj, Rect.toInt_min, Rect.toInt_max, half, last, least, place]

theorem square_eq_some_iff {a b area : Int32} : square a b area scale = some r ↔
    start a (side area scale) = some r.left ∧ start b (side area scale) = some r.top ∧
      r.right.toInt = r.left.toInt + (side area scale).toInt ∧
      r.bottom.toInt = r.top.toInt + (side area scale).toInt := by
  simp only [square, Option.bind_eq_bind, Option.bind_eq_some_iff, checked_eq_some_iff,
    Option.pure_def, Option.some.injEq]
  constructor
  · rintro ⟨left, hLeft, top, hTop, right, hRight, bottom, hBottom, rfl⟩
    exact ⟨hLeft, hTop, hRight, hBottom⟩
  · rintro ⟨left, top, right, bottom⟩
    exact ⟨_, left, _, top, _, right, _, bottom, rfl⟩

/-- What becomes of a side that is not negative, where its centre is not too far out to subtract
half of it. -/
theorem settled_start (nonneg : 0 ≤ s.toInt) (length : s.toInt ≤ 2000)
    (room : -2 ^ 31 ≤ c.toInt - s.toInt / 2) :
    ∃ first, start c s = some first ∧ Settled c.toInt s.toInt first.toInt := by
  have half : s.toInt.tdiv 2 = s.toInt / 2 := Int.tdiv_eq_ediv_of_nonneg nonneg
  have below := c.toInt_lt
  have place : (Int32.ofInt (min (max (c.toInt - s.toInt / 2) (-1000)) (1000 - s.toInt))).toInt =
      min (max (c.toInt - s.toInt / 2) (-1000)) (1000 - s.toInt) :=
    Int32.toInt_ofInt_of_le (by omega) (by omega)
  refine ⟨_, start_eq_some_iff.2 ⟨by omega, by omega, place.trans (by rw [half])⟩, ?_⟩
  rw [place]
  exact Settled.clamped length

theorem aimed_square {a b area : Int32} (nonneg : 0 ≤ (side area scale).toInt)
    (across : -2 ^ 31 ≤ a.toInt - (side area scale).toInt / 2)
    (down : -2 ^ 31 ≤ b.toInt - (side area scale).toInt / 2) :
    ∃ r, square a b area scale = some r ∧
      r.Aimed a.toInt b.toInt (side area scale).toInt := by
  have length := toInt_side area scale
  obtain ⟨left, hLeft, settled⟩ := settled_start (c := a) nonneg (by omega) across
  obtain ⟨top, hTop, settled'⟩ := settled_start (c := b) nonneg (by omega) down
  have edge {first center : Int} (settled : Settled center (side area scale).toInt first) :
      (Int32.ofInt (first + (side area scale).toInt)).toInt =
        first + (side area scale).toInt := by
    have := settled.low
    have := settled.high
    exact Int32.toInt_ofInt_of_le (by omega) (by omega)
  exact ⟨⟨left, top, _, _⟩, square_eq_some_iff.2 ⟨hLeft, hTop, edge settled, edge settled'⟩,
    edge settled, edge settled', settled, settled'⟩

variable {f : FocusMapper} {tap : Tap} {preview : Size} {rotation : UInt32}
  {capabilities : Capabilities}

/-- There is no request, or it is made of two squares that are computed one by one. -/
theorem request?_cases (f : FocusMapper) (tap : Tap) (preview : Size) (rotation : UInt32)
    (capabilities : Capabilities) :
    let x := intoSpace tap.x (preview.turned rotation).width
    let y := intoSpace tap.y (preview.turned rotation).height
    let area := f.areaSide preview
    (capabilities.steerable = false ∨ preview.isEmpty = true) ∧
        f.request? tap preview rotation capabilities = some none ∨
      (capabilities.steerable = true ∧ preview.isEmpty = false) ∧
        f.request? tap preview rotation capabilities =
          ((square x y area 1).bind fun focus =>
            (square x y area f.meteringScale).map fun metering => some ⟨focus, metering⟩) := by
  intro x y area
  unfold request?
  split
  · next out =>
    exact .inl ⟨by simpa using out, rfl⟩
  · next out =>
    refine .inr ⟨by simpa using out, ?_⟩
    simp [Option.bind_eq_bind, Option.map_eq_bind, x, y, area, Size.turned]

theorem steerable_eq_false_iff : capabilities.steerable = false ↔
    capabilities.maxFocusAreas = 0 ∧ capabilities.maxMeteringAreas = 0 := by
  have none_ (areas : UInt32) : decide (0 < areas) = false ↔ areas = 0 := by
    rw [decide_eq_false_iff_not, UInt32.lt_iff_toNat_lt, ← UInt32.toNat_inj, UInt32.toNat_zero]
    omega
  simp [Capabilities.steerable, Capabilities.hasFocusAreas, Capabilities.hasMeteringAreas, none_]

theorem request?_eq_some_none_iff : f.request? tap preview rotation capabilities = some none ↔
    capabilities.maxFocusAreas = 0 ∧ capabilities.maxMeteringAreas = 0 ∨
      preview.isEmpty = true := by
  rw [← steerable_eq_false_iff]
  rcases f.request?_cases tap preview rotation capabilities with
    ⟨out, made⟩ | ⟨⟨steerable, sized⟩, made⟩
  · exact iff_of_true made out
  · rw [made]
    simp [Option.bind_eq_some_iff, steerable, sized]

end FocusMapper

/-- With settings that keep their limits, a camera that can use them gets squares for every tap that
is not about 2³¹ outside. They lie in the space, each as near to the tap as it can, the focus square
within the metering square. -/
theorem FocusMapper.request?_aimed (s : Settings) (valid : s.fault? = none) (tap : Tap)
    (preview : Size) (rotation : UInt32) (capabilities : Capabilities) :
    (s.focusMapper.request? tap preview rotation capabilities = some none ↔
      capabilities.maxFocusAreas = 0 ∧ capabilities.maxMeteringAreas = 0 ∨
        preview.isEmpty = true) ∧
    (capabilities.maxFocusAreas ≠ 0 ∨ capabilities.maxMeteringAreas ≠ 0 →
      preview.isEmpty = false →
      preview.width.toNat < 2 ^ 31 → preview.height.toNat < 2 ^ 31 →
      let x := (intoSpace tap.x (preview.turned rotation).width).toInt
      let y := (intoSpace tap.y (preview.turned rotation).height).toInt
      let area : Int := (max preview.width.toNat preview.height.toNat / s.areaDivisor.toNat : Nat)
      x - 1000 ≥ -2 ^ 31 → y - 1000 ≥ -2 ^ 31 →
      ∃ (request : FocusRequest) (n m : Int),
        s.focusMapper.request? tap preview rotation capabilities = some (some request) ∧
        n = min (Binary.ofInt area : Single).toInt32.toInt 2000 ∧ n = min area 2000 ∧ n ≤ m ∧
        request.focus.Aimed x y n ∧ request.metering.Aimed x y m ∧
        space.contains request.focus = true ∧ space.contains request.metering = true ∧
        request.metering.contains request.focus = true) := by
  refine ⟨request?_eq_some_none_iff, fun areas sized wide high => ?_⟩
  intro x y area across down
  obtain ⟨-, divisor, scale, -⟩ := s.fault?_eq_none_iff.1 valid
  have small := Nat.div_le_self (max preview.width.toNat preview.height.toNat) s.areaDivisor.toNat
  have length : (s.focusMapper.areaSide preview).toInt = area :=
    toInt_areaSide_of_lt divisor (by show _ / s.areaDivisor.toNat < _; omega)
  have nonneg : 0 ≤ area := Int.natCast_nonneg _
  obtain ⟨first, larger⟩ := side_mono (length ▸ nonneg) scale
  have room {scale : Single} {center : Int} (far : center - 1000 ≥ -2 ^ 31) :
      -2 ^ 31 ≤ center - (side (s.focusMapper.areaSide preview) scale).toInt / 2 := by
    have := toInt_side (s.focusMapper.areaSide preview) scale
    omega
  obtain ⟨focus, made, aimed⟩ := aimed_square first (room across) (room down)
  obtain ⟨metering, made', aimed'⟩ := aimed_square (first.trans larger) (room across) (room down)
  have cut := toInt_side_one (s.focusMapper.areaSide preview)
  rw [length] at cut
  have given : s.focusMapper.request? tap preview rotation capabilities =
      some (some ⟨focus, metering⟩) := by
    rcases s.focusMapper.request?_cases tap preview rotation capabilities with ⟨out, -⟩ | ⟨-, eq⟩
    · rw [steerable_eq_false_iff] at out
      simp [sized] at out
      simp [out] at areas
    · rw [eq, made, Option.bind_some]
      exact Option.map_eq_some_iff.2 ⟨metering, made', rfl⟩
  exact ⟨⟨focus, metering⟩, _, _, given, cut,
    cut.trans (min_toInt32_ofInt area _ nonneg (by decide) (by decide)), larger, aimed, aimed',
    space_contains aimed, space_contains aimed', contains_of_aimed aimed aimed' larger⟩

/-- A tap at the edge of a view that is turned by a quarter, with an unbounded metering square. -/
theorem FocusMapper.request?_aimed_edge :
    ({ meteringScale := .infinite false } : Settings).focusMapper.request? ⟨0, 960⟩ ⟨1920, 1080⟩ 90
      ⟨[], 1, 0, []⟩ = some (some ⟨⟨-1000, -120, -760, 120⟩, space⟩) ∧
    (⟨-1000, -120, -760, 120⟩ : Rect).Aimed (-1000) 0 240 ∧ ∃ m, space.Aimed (-1000) 0 m := by
  obtain ⟨-, aimed⟩ := FocusMapper.request?_aimed { meteringScale := .infinite false }
    (by decide +kernel) ⟨0, 960⟩ ⟨1920, 1080⟩ 90 ⟨[], 1, 0, []⟩
  obtain ⟨request, n, m, made, -, cut, -, focus, metering, -⟩ := aimed (by decide) (by decide)
    (by decide) (by decide) (by decide +kernel) (by decide +kernel)
  have asked : ({ meteringScale := .infinite false } : Settings).focusMapper.request? ⟨0, 960⟩
      ⟨1920, 1080⟩ 90 ⟨[], 1, 0, []⟩ = some (some ⟨⟨-1000, -120, -760, 120⟩, space⟩) := by
    decide +kernel
  obtain rfl := Option.some.inj (Option.some.inj (made.symm.trans asked))
  have across : (intoSpace 0 ((⟨1920, 1080⟩ : Size).turned 90).width).toInt = -1000 := by
    decide +kernel
  have down : (intoSpace 960 ((⟨1920, 1080⟩ : Size).turned 90).height).toInt = 0 := by
    decide +kernel
  have length : n = 240 := cut.trans (by decide)
  subst length
  rw [across, down] at focus metering
  exact ⟨asked, focus, m, metering⟩

end Viewfinder
