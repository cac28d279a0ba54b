import Viewfinder.Proofs.Run
import Viewfinder.Proofs.Targeting
import Viewfinder.Proofs.Words

/-!
# Room for the arithmetic of a tap

The squares around a tap are computed with 32-bit integers, and the request for it crashes where a
difference or a sum leaves them. Whether it does, and whether the squares lie in the space,
depends on where the tap is carried to and on the longer of the two sides (`Roomy`). Where overflow
is not checked the words wrap instead (`unchecked?`), and the squares of every preview that is not
of about 2³¹ pixels still lie in the space.
-/

namespace Viewfinder

open Binary Single

/-- Each edge lies in the hardware's space. -/
def Rect.InSpace (r : Rect) : Prop :=
  ∀ edge ∈ [r.left, r.top, r.right, r.bottom], -1000 ≤ edge.toInt ∧ edge.toInt ≤ 1000

instance (r : Rect) : Decidable r.InSpace := List.decidableBAll _ _

/-- Where the middle of a square may be, for its edges to be computed and to come to lie in the
space. A square with no less than no side is moved there, unless half of it cannot be subtracted.
One with its edges exchanged stays where it is. -/
def Roomy (side center : Int) : Prop :=
  if 0 ≤ side then -2 ^ 31 ≤ center - side / 2
  else -1000 - side ≤ center - side.tdiv 2 ∧ center - side.tdiv 2 ≤ 1000

namespace Roomy

variable {m n center : Int}

theorem tdiv_two_of_nonpos (h : n ≤ 0) : n.tdiv 2 = -(-n / 2) := by
  have mirrored := Int.neg_tdiv (-n) 2
  rwa [neg_neg, Int.tdiv_eq_ediv_of_nonneg (a := -n) (by omega)] at mirrored

theorem iff_of_nonneg (h : 0 ≤ n) : Roomy n center ↔ -2 ^ 31 ≤ center - n / 2 := by
  rw [Roomy, if_pos h]

theorem iff_of_neg (h : n < 0) :
    Roomy n center ↔ -1000 - n ≤ center + -n / 2 ∧ center + -n / 2 ≤ 1000 := by
  rw [Roomy, if_neg (not_le.2 h), tdiv_two_of_nonpos h.le, sub_neg_eq_add]

theorem of_le (nonneg : 0 ≤ n) (length : n ≤ 2000) (above : -2 ^ 31 + 1000 ≤ center) :
    Roomy n center := by
  rw [iff_of_nonneg nonneg]
  omega

/-- The shorter of two squares at one centre has room where the longer one has. -/
theorem of_longer (roomy : Roomy m center) (h : 0 ≤ n ∧ n ≤ m ∨ m ≤ n ∧ n < 0) :
    Roomy n center := by
  rcases h with ⟨nonneg, le⟩ | ⟨le, negative⟩
  · rw [iff_of_nonneg (nonneg.trans le)] at roomy
    rw [iff_of_nonneg nonneg]
    omega
  · rw [iff_of_neg (le.trans_lt negative)] at roomy
    rw [iff_of_neg negative]
    omega

end Roomy

namespace FocusMapper

variable {c s a b area : Int32} {scale : Single}

/-- What of an axis lies in the space. -/
def Between (edge : Int) : Prop := -1000 ≤ edge ∧ edge ≤ 1000

/-- On an axis: everything can be computed, and both edges lie in the space. -/
def Sound (c s : Int32) : Prop :=
  ∃ first last : Int32, start c s = some first ∧ last.toInt = first.toInt + s.toInt ∧
    Between first.toInt ∧ Between last.toInt

theorem sound_iff {middle place : Int} (half : middle = c.toInt - s.toInt.tdiv 2)
    (kept : place = min (max middle (-1000)) (1000 - s.toInt)) : Sound c s ↔
      (-2 ^ 31 ≤ middle ∧ middle < 2 ^ 31) ∧ 1000 - s.toInt < 2 ^ 31 ∧ Between place ∧
        Between (place + s.toInt) := by
  simp only [Sound, start_eq_some_iff, ← half, ← kept]
  constructor
  · rintro ⟨first, last, ⟨fits, rest, same⟩, sum, left, right⟩
    rw [sum, same] at right
    rw [same] at left
    exact ⟨fits, rest, left, right⟩
  · rintro ⟨fits, rest, left, right⟩
    have first : (Int32.ofInt place).toInt = place :=
      Int32.toInt_ofInt_of_le (by have := left.1; omega) (by have := left.2; omega)
    have last : (Int32.ofInt (place + s.toInt)).toInt = place + s.toInt :=
      Int32.toInt_ofInt_of_le (by have := right.1; omega) (by have := right.2; omega)
    exact ⟨.ofInt place, .ofInt (place + s.toInt), ⟨fits, rest, first⟩, by rw [first, last],
      by rwa [first], by rwa [last]⟩

theorem sound_iff_roomy (length : s.toInt ≤ 2000) : Sound c s ↔ Roomy s.toInt c.toInt := by
  have below := c.toInt_lt
  rw [sound_iff rfl rfl]
  unfold Between
  rcases le_or_gt 0 s.toInt with nonneg | negative
  · rw [Roomy.iff_of_nonneg nonneg, Int.tdiv_eq_ediv_of_nonneg nonneg]
    omega
  · rw [Roomy.iff_of_neg negative, Roomy.tdiv_two_of_nonpos negative.le]
    omega

theorem exists_square_iff : (∃ r, square a b area scale = some r ∧ r.InSpace) ↔
    Roomy (side area scale).toInt a.toInt ∧ Roomy (side area scale).toInt b.toInt := by
  have length : (side area scale).toInt ≤ 2000 := by
    have := toInt_side area scale
    omega
  simp only [← sound_iff_roomy length, Sound, square_eq_some_iff, Rect.InSpace, Between,
    List.forall_mem_cons, List.not_mem_nil, false_implies, implies_true, and_true]
  constructor
  · rintro ⟨r, ⟨hLeft, hTop, hRight, hBottom⟩, left, top, right, bottom⟩
    exact ⟨⟨r.left, r.right, hLeft, hRight, left, right⟩, r.top, r.bottom, hTop, hBottom, top,
      bottom⟩
  · rintro ⟨⟨left, right, hLeft, hRight, inLeft, inRight⟩, top, bottom, hTop, hBottom, inTop,
      inBottom⟩
    exact ⟨⟨left, top, right, bottom⟩, ⟨hLeft, hTop, hRight, hBottom⟩, inLeft, inTop, inRight,
      inBottom⟩

theorem mul_ofInt_antitone {x y : Single} {n : Int} (negative : n < 0) (low : -2 ^ 31 ≤ n)
    (h : x ≤ y) : (y * Binary.ofInt n).toInt32.toInt ≤ (x * Binary.ofInt n).toInt32.toInt := by
  have rounded := rat?_ofInt_nearest low (by omega)
  have below : nearest .single (n : Rat) ≤ -1 := by
    have mono := nearest_mono (f := .single) (q := n) (r := (-1 : Int)) (by decide)
      (by exact_mod_cast Int.le_sub_one_of_lt negative)
    have kept := (rat?_ofInt_nearest (n := -1) (by decide) (by decide)).symm.trans
      (rat?_ofInt (by decide) (by decide))
    rw [Option.some.inj kept] at mono
    exact_mod_cast mono
  have opposite (sign : Bool) : (infinite sign : Single) * ofInt n = infinite !sign := by
    rw [eq_finite rounded (by linarith)]
    show mul _ _ = _
    have nonzero : nearest .single (n : Rat) ≠ 0 := by linarith
    have sign' : nearest .single (n : Rat) < 0 := by linarith
    simp [mul, rat?, isNegative, nonzero, sign']
  rcases le_cases h with ⟨rfl, -⟩ | ⟨-, rfl⟩ | ⟨p, q, hp, hq, le⟩
  · rw [opposite]
    exact Int.le_of_lt_add_one (Int32.toInt_lt _)
  · rw [opposite]
    exact Int32.le_toInt _
  · rw [mul_eq hp rounded, mul_eq hq rounded]
    exact toInt32_mono (round_mono (by decide) (mul_le_mul_of_nonpos_right le (by linarith)))

/-- The metering square is the longer one, also when a preview is so long that the sides come out
negative. -/
theorem side_alike (area : Int32) (h : 1 ≤ scale) :
    0 ≤ (side area 1).toInt ∧ (side area 1).toInt ≤ (side area scale).toInt ∨
      (side area scale).toInt ≤ (side area 1).toInt ∧ (side area 1).toInt < 0 := by
  rcases le_or_gt 0 area.toInt with nonneg | negative
  · exact .inl (side_mono nonneg h)
  · have below := toInt32_mono (ofInt_mono (m := area.toInt) (n := -1) (by omega))
    have minus := toInt_toInt32_ofInt (n := -1) (by decide) (by decide)
    have factor := mul_ofInt_antitone negative area.le_toInt h
    have one := toInt_side_one area
    have one' := toInt_side area 1
    have length := toInt_side area scale
    right
    omega

end FocusMapper

theorem Size.sides_turned {s : Size} (sized : s.isEmpty = false) (rotation : UInt32) :
    (s.turned rotation).width ≠ 0 ∧ (s.turned rotation).height ≠ 0 := by
  have sides : s.width ≠ 0 ∧ s.height ≠ 0 := by simpa [Size.isEmpty] using sized
  unfold Size.turned
  split
  · exact sides
  · exact sides.symm

/-- A coordinate of the view that is not millions of its extents below it. -/
def Near (coordinate : Single) (extent : UInt32) : Prop :=
  coordinate ≠ .infinite true ∧
    ∀ q, coordinate.rat? = some q → -10 ^ 6 * (extent.toNat : Rat) ≤ q

namespace FocusMapper

variable {coordinate z : Single} {extent : UInt32}

theorem exists_extent (nonempty : extent ≠ 0) : ∃ e : Rat,
    (Binary.ofInt extent.toNat : Single) = finite e ∧ 0 < e ∧
      (1 - roundoff) * extent.toNat ≤ e := by
  rw [ne_eq, ← UInt32.toNat_inj, UInt32.toNat_zero] at nonempty
  have one : (1 : Rat) ≤ extent.toNat := by exact_mod_cast Nat.one_le_iff_ne_zero.2 nonempty
  have most : (extent.toNat : Rat) ≤ 2 ^ 32 := by exact_mod_cast extent.toNat_lt.le
  obtain ⟨e, value, low, -⟩ := close_round (q := extent.toNat) (le_trans (by norm_num) one)
    (most.trans (by norm_num))
  rw [Nat.cast_one, one_mul] at low
  have positive : 0 < e := lt_of_lt_of_le (mul_pos (by norm_num [roundoff]) (by linarith)) low
  exact ⟨e, eq_finite value positive.ne', positive, low⟩

/-- The way into the space, by operations that keep order. -/
theorem intoSpace_eq {e : Rat} (value : (Binary.ofInt extent.toNat : Single) = finite e)
    (positive : 0 < e) (coordinate : Single) : intoSpace coordinate extent =
      (((coordinate.along (· / e)).along (· * 2000)).along (· - 1000)).toInt32 := by
  have twoThousand : (2000 : Single) = finite 2000 :=
    eq_finite (rat?_ofInt (by decide) (by decide)) (by decide)
  have thousand : (1000 : Single) = finite 1000 :=
    eq_finite (rat?_ofInt (by decide) (by decide)) (by decide)
  rw [intoSpace, value, div_finite positive, twoThousand, mul_finite (by norm_num), thousand,
    sub_finite (by norm_num)]

theorem intoSpace_mono (nonempty : extent ≠ 0) (h : z ≤ coordinate) :
    (intoSpace z extent).toInt ≤ (intoSpace coordinate extent).toInt := by
  obtain ⟨e, value, positive, -⟩ := exists_extent nonempty
  rw [intoSpace_eq value positive, intoSpace_eq value positive]
  refine toInt32_mono (along_mono (by decide) (fun a b le => ?_) (along_mono (by decide)
    (fun a b le => ?_) (along_mono (by decide) (fun a b le => ?_) h)))
  · linarith
  · linarith
  · exact div_le_div_of_nonneg_right le positive.le

/-- A tap that is near does not come to lie far below the space. -/
theorem intoSpace_of_near (nonempty : extent ≠ 0) (near : Near coordinate extent) :
    -2 ^ 31 + 1000 ≤ (intoSpace coordinate extent).toInt := by
  obtain ⟨e, value, positive, least⟩ := exists_extent nonempty
  obtain ⟨bounded, within⟩ := near
  -- the near taps are above one whose quotient is a power of two
  have above {q : Rat} (value' : coordinate.rat? = some q) : finite (-2 ^ 20 * e) ≤ coordinate := by
    have far := within q value'
    have some_ : (0 : Rat) ≤ extent.toNat := Nat.cast_nonneg _
    rw [le_iff rfl value']
    rw [roundoff] at least
    linarith
  have reached : (intoSpace (finite (-2 ^ 20 * e)) extent).toInt = -2097153024 := by
    rw [intoSpace_eq value positive, along_eq (x := finite _) (· / e) rfl,
      mul_div_cancel_right₀ _ positive.ne']
    decide +kernel
  cases coordinate with
  | nan =>
    rw [intoSpace_eq value positive]
    exact (by decide : -2 ^ 31 + 1000 ≤ (Binary.nan : Single).toInt32.toInt)
  | infinite negative =>
    cases negative with
    | true => exact absurd rfl bounded
    | false =>
      have mono := intoSpace_mono nonempty (le_infinite (x := finite (-2 ^ 20 * e)) rfl)
      omega
  | negativeZero | finite =>
    have mono := intoSpace_mono nonempty (above rfl)
    omega

/-! ## Requests -/

variable {f : FocusMapper} {tap : Tap} {preview : Size} {rotation : UInt32}
  {capabilities : Capabilities}

/-- The request for a tap is computed without a crash, and its squares lie in the space. -/
def Safe (f : FocusMapper) (tap : Tap) (preview : Size) (rotation : UInt32)
    (capabilities : Capabilities) : Prop :=
  ∃ result, f.request? tap preview rotation capabilities = some result ∧
    ∀ request, result = some request → request.focus.InSpace ∧ request.metering.InSpace

theorem safe_iff : f.Safe tap preview rotation capabilities ↔
    f.request? tap preview rotation capabilities = some none ∨
      ∀ scale ∈ [1, f.meteringScale],
        Roomy (side (f.areaSide preview) scale).toInt
          (intoSpace tap.x (preview.turned rotation).width).toInt ∧
        Roomy (side (f.areaSide preview) scale).toInt
          (intoSpace tap.y (preview.turned rotation).height).toInt := by
  unfold Safe
  rcases f.request?_cases tap preview rotation capabilities with ⟨-, made⟩ | ⟨-, made⟩
  · simp [made]
  · simp only [List.forall_mem_cons, List.not_mem_nil, false_implies, implies_true, and_true,
      ← exists_square_iff, made, Option.bind_eq_some_iff, Option.map_eq_some_iff]
    constructor
    · rintro ⟨_, ⟨focus, hFocus, metering, hMetering, rfl⟩, within⟩
      obtain ⟨inFocus, inMetering⟩ := within _ rfl
      exact .inr ⟨⟨focus, hFocus, inFocus⟩, metering, hMetering, inMetering⟩
    · rintro (⟨_, -, _, -, none_⟩ | ⟨⟨focus, hFocus, inFocus⟩, metering, hMetering, inMetering⟩)
      · cases none_
      · refine ⟨_, ⟨focus, hFocus, metering, hMetering, rfl⟩, ?_⟩
        rintro _ ⟨⟩
        exact ⟨inFocus, inMetering⟩

/-- A tap without a lower bound overflows, unless the metering square is hardly a point. -/
theorem not_safe_of_infinite (out : f.request? tap preview rotation capabilities ≠ some none)
    (wide : 2 ≤ (side (f.areaSide preview) f.meteringScale).toInt)
    (far : tap.x = .infinite true ∨ tap.y = .infinite true) :
    ¬f.Safe tap preview rotation capabilities := by
  have sized : preview.isEmpty = false := by
    rcases f.request?_cases tap preview rotation capabilities with ⟨-, none_⟩ | ⟨⟨-, sized⟩, -⟩
    · exact absurd none_ out
    · exact sized
  have sides := Size.sides_turned sized rotation
  have least {extent : UInt32} (nonempty : extent ≠ 0) :
      (intoSpace (.infinite true) extent).toInt = -2 ^ 31 := by
    obtain ⟨e, value, positive, -⟩ := exists_extent nonempty
    rw [intoSpace_eq value positive]
    exact (by decide : (infinite true : Single).toInt32.toInt = -2 ^ 31)
  rw [safe_iff]
  rintro (none_ | roomy)
  · exact out none_
  · obtain ⟨across, down⟩ := roomy f.meteringScale (by simp)
    rw [Roomy.iff_of_nonneg (by omega)] at across down
    rcases far with eq | eq
    · rw [eq, least sides.1] at across
      omega
    · rw [eq, least sides.2] at down
      omega

/-! ## Without the checks -/

/-- Where a side starts if overflow is not checked: the words wrap. -/
def uncheckedStart (center side : Int32) : Int32 :=
  min (max (center - side / 2) spaceMin) (spaceMax - side)

def uncheckedSquare (x y area : Int32) (scale : Single) : Rect :=
  let side := side area scale
  let left := uncheckedStart x side
  let top := uncheckedStart y side
  ⟨left, top, left + side, top + side⟩

/-- The request for a tap if overflow is not checked. -/
def unchecked? (m : FocusMapper) (tap : Tap) (preview : Size) (rotation : UInt32)
    (capabilities : Capabilities) : Option FocusRequest :=
  if !capabilities.steerable || preview.isEmpty then none
  else
    let view := preview.turned rotation
    let x := intoSpace tap.x view.width
    let y := intoSpace tap.y view.height
    let area := m.areaSide preview
    some ⟨uncheckedSquare x y area 1, uncheckedSquare x y area m.meteringScale⟩

theorem uncheckedStart_eq {first : Int32} (made : start c s = some first) :
    uncheckedStart c s = first := by
  have least : spaceMin.toInt = -1000 := rfl
  have most : spaceMax.toInt = 1000 := rfl
  obtain ⟨⟨low, high⟩, rest, place⟩ := start_eq_some_iff.1 made
  have length := s.toInt_lt
  rw [← Int32.toInt_inj, place, uncheckedStart, Rect.toInt_min, Rect.toInt_max,
    Rect.toInt_sub (by rwa [toInt_half]) (by rwa [toInt_half]), toInt_half,
    Rect.toInt_sub (by omega) (by omega), least, most]

theorem uncheckedSquare_eq {r : Rect} (made : square a b area scale = some r) :
    uncheckedSquare a b area scale = r := by
  obtain ⟨left, top, right, bottom⟩ := square_eq_some_iff.1 made
  simp only [uncheckedSquare, uncheckedStart_eq left, uncheckedStart_eq top,
    add_eq_of_toInt right, add_eq_of_toInt bottom]

/-- It is the same request where nothing overflows. -/
theorem unchecked?_eq {result : Option FocusRequest}
    (made : f.request? tap preview rotation capabilities = some result) :
    f.unchecked? tap preview rotation capabilities = result := by
  rcases f.request?_cases tap preview rotation capabilities with
    ⟨out, eq⟩ | ⟨⟨steerable, sized⟩, eq⟩
  · obtain rfl := Option.some.inj (eq.symm.trans made)
    exact if_pos (by simpa using out)
  · rw [eq] at made
    simp only [Option.bind_eq_some_iff, Option.map_eq_some_iff] at made
    obtain ⟨focus, hFocus, metering, hMetering, rfl⟩ := made
    simp only [unchecked?, steerable, sized, Bool.not_true, Bool.or_self, Bool.false_eq_true,
      if_false, uncheckedSquare_eq hFocus, uncheckedSquare_eq hMetering]

/-- A square of a side that is not negative comes to lie in the space, wherever its centre is. -/
theorem inSpace_uncheckedSquare (nonneg : 0 ≤ (side area scale).toInt) :
    (uncheckedSquare a b area scale).InSpace := by
  have length := toInt_side area scale
  unfold uncheckedSquare
  generalize side area scale = s at nonneg length ⊢
  have least : spaceMin.toInt = -1000 := rfl
  have last : (spaceMax - s).toInt = 1000 - s.toInt := by
    rw [Rect.toInt_sub] <;> rw [show spaceMax.toInt = 1000 from rfl] <;> omega
  have edges (c : Int32) :
      (-1000 ≤ (uncheckedStart c s).toInt ∧ (uncheckedStart c s).toInt ≤ 1000) ∧
      -1000 ≤ (uncheckedStart c s + s).toInt ∧ (uncheckedStart c s + s).toInt ≤ 1000 := by
    have bounds : -1000 ≤ (uncheckedStart c s).toInt ∧
        (uncheckedStart c s).toInt + s.toInt ≤ 1000 := by
      rw [uncheckedStart, Rect.toInt_min, Rect.toInt_max, least, last]
      omega
    rw [Rect.toInt_add (by omega) (by omega)]
    omega
  simp only [Rect.InSpace, List.forall_mem_cons, List.not_mem_nil, false_implies, implies_true,
    and_true]
  exact ⟨(edges a).1, (edges b).1, (edges a).2, (edges b).2⟩

/-! ## For settings that keep their limits -/

/-- A side that is not negative leaves room for every tap that is near. -/
theorem roomy_of_near {side : Int} (nonneg : 0 ≤ side) (length : side ≤ 2000)
    (nonempty : extent ≠ 0) (near : Near coordinate extent) :
    Roomy side (intoSpace coordinate extent).toInt :=
  .of_le nonneg length (intoSpace_of_near nonempty near)

/-- The metering square decides, being the longer one. -/
theorem safe_iff_metering {s : Settings} (valid : s.fault? = none) :
    s.focusMapper.Safe tap preview rotation capabilities ↔
      s.focusMapper.request? tap preview rotation capabilities = some none ∨
        Roomy (side (s.focusMapper.areaSide preview) s.meteringScale).toInt
            (intoSpace tap.x (preview.turned rotation).width).toInt ∧
          Roomy (side (s.focusMapper.areaSide preview) s.meteringScale).toInt
            (intoSpace tap.y (preview.turned rotation).height).toInt := by
  obtain ⟨-, -, scale, -⟩ := s.fault?_eq_none_iff.1 valid
  have alike := side_alike (s.focusMapper.areaSide preview) scale
  rw [safe_iff]
  refine or_congr_right ⟨fun roomy => roomy s.meteringScale (by simp [Settings.focusMapper]),
    fun roomy => ?_⟩
  simp only [List.forall_mem_cons, List.not_mem_nil, false_implies, implies_true, and_true]
  exact ⟨⟨roomy.1.of_longer alike, roomy.2.of_longer alike⟩, roomy⟩

/-- The sides of the squares are none below zero, as long as the preview has not about 2³¹ pixels
for each of the divisor. -/
theorem side_nonneg {s : Settings} (valid : s.fault? = none)
    (short : max preview.width.toNat preview.height.toNat / s.areaDivisor.toNat < 2 ^ 31) :
    0 ≤ (side (s.focusMapper.areaSide preview) 1).toInt ∧
      0 ≤ (side (s.focusMapper.areaSide preview) s.meteringScale).toInt := by
  obtain ⟨-, divisor, scale, -⟩ := s.fault?_eq_none_iff.1 valid
  have length := toInt_areaSide_of_lt (m := s.focusMapper) divisor short
  obtain ⟨focus, larger⟩ := side_mono (length ▸ Int.natCast_nonneg _) scale
  exact ⟨focus, focus.trans larger⟩

theorem safe_of_near {s : Settings} (valid : s.fault? = none)
    (short : max preview.width.toNat preview.height.toNat / s.areaDivisor.toNat < 2 ^ 31)
    (across : Near tap.x (preview.turned rotation).width)
    (down : Near tap.y (preview.turned rotation).height) :
    s.focusMapper.Safe tap preview rotation capabilities := by
  rw [safe_iff_metering valid]
  rcases s.focusMapper.request?_cases tap preview rotation capabilities with
    ⟨-, none_⟩ | ⟨⟨-, sized⟩, -⟩
  · exact .inl none_
  · obtain ⟨wide, high⟩ := Size.sides_turned sized rotation
    have positive := (side_nonneg valid short).2
    have most : (side (s.focusMapper.areaSide preview) s.meteringScale).toInt ≤ 2000 :=
      (toInt_side _ _).trans_le (min_le_right _ _)
    exact .inr ⟨roomy_of_near positive most wide across, roomy_of_near positive most high down⟩

end FocusMapper

/-- With settings that keep their limits, the arithmetic of a tap stays within 32 bits and its
squares lie in the space exactly if there is room for the metering square on both axes. For a
preview below 2³¹ the squares lie there in any case, also where the words wrap, and every tap that
is near leaves room. -/
theorem FocusMapper.safe_iff_roomy (s : Settings) (valid : s.fault? = none) (tap : Tap)
    (preview : Size) (rotation : UInt32) (capabilities : Capabilities) :
    let f := s.focusMapper
    let view := preview.turned rotation
    let side := (side (f.areaSide preview) f.meteringScale).toInt
    (f.Safe tap preview rotation capabilities ↔
      f.request? tap preview rotation capabilities = some none ∨
        Roomy side (intoSpace tap.x view.width).toInt ∧
          Roomy side (intoSpace tap.y view.height).toInt) ∧
    (∀ result, f.request? tap preview rotation capabilities = some result →
      f.unchecked? tap preview rotation capabilities = result) ∧
    (max preview.width.toNat preview.height.toNat / s.areaDivisor.toNat < 2 ^ 31 →
      (∀ request, f.unchecked? tap preview rotation capabilities = some request →
        request.focus.InSpace ∧ request.metering.InSpace) ∧
      (Near tap.x view.width → Near tap.y view.height →
        f.Safe tap preview rotation capabilities)) := by
  refine ⟨safe_iff_metering valid, fun _ => unchecked?_eq,
    fun short => ⟨fun request made => ?_, safe_of_near valid short⟩⟩
  obtain ⟨focus, metering⟩ := side_nonneg valid short
  unfold unchecked? at made
  split at made
  · cases made
  · obtain rfl := Option.some.inj made
    exact ⟨inSpace_uncheckedSquare focus, inSpace_uncheckedSquare metering⟩

/-- A tap beyond the right edge, at no height at all. -/
theorem FocusMapper.safe_iff_roomy_beyond :
    ({} : Settings).focusMapper.Safe ⟨.infinite false, .nan⟩ ⟨640, 480⟩ 90 ⟨[], 1, 1, []⟩ := by
  obtain ⟨-, -, short⟩ := FocusMapper.safe_iff_roomy {} (by decide +kernel)
    ⟨.infinite false, .nan⟩ ⟨640, 480⟩ 90 ⟨[], 1, 1, []⟩
  exact (short (by decide)).2 ⟨nofun, fun _ value => nomatch value⟩
    ⟨nofun, fun _ value => nomatch value⟩

namespace CameraSystem

/-- The open camera has its preview, and a tap has been taken that is below every number. -/
def tappedBelow : List Move :=
  .flatten [
    [.request (.setViewport ⟨480, 640⟩), .request (.start .back)], turns 7,
    [.task (.preparation 1)], turns 5, [.request (.focusOn ⟨.infinite true, .finite 0⟩)]]

/-- The executor comes to a tap whose coordinate cannot be moved by half a side, and crashes; and
the sides of a preview of almost 2³² pixels have become negative, so that their squares stick
out. -/
theorem tappedBelow_overflows :
    (∃ s t camera preview, (ofCameras {} Simulator.dual 64 .back).run? tappedBelow = some s ∧
      s.slot = some camera ∧ s.tap = some ⟨.infinite true, .finite 0⟩ ∧
      s.preview = some preview ∧
      s.settings.focusMapper.request? ⟨.infinite true, .finite 0⟩ preview s.display
        camera.capabilities = none ∧
      s.run? [.task .executor] = some t ∧ t.executor.stage = .crashed) ∧
    ({ areaDivisor := 1 } : Settings).fault? = none ∧
    ∃ request, ({ areaDivisor := 1 } : Settings).focusMapper.request? ⟨0, 0⟩ ⟨4294967196, 100⟩ 0
        ⟨[], 1, 1, []⟩ = some (some request) ∧
      request.focus = ⟨-950, -950, -1050, -1050⟩ ∧ ¬request.focus.InSpace := by
  refine ⟨?_, by decide +kernel, ⟨⟨-950, -950, -1050, -1050⟩, ⟨-925, -925, -1075, -1075⟩⟩,
    by decide +kernel, rfl, by decide⟩
  have checked : ((ofCameras {} Simulator.dual 64 .back).run? tappedBelow).any fun s =>
      s.tap = some ⟨.infinite true, .finite 0⟩ ∧
        (s.slot.any fun camera => s.preview.any fun preview =>
          (s.settings.focusMapper.request? ⟨.infinite true, .finite 0⟩ preview s.display
            camera.capabilities).isNone) ∧
        (s.run? [.task .executor]).any fun t => t.executor.stage = .crashed := by
    decide +kernel
  obtain ⟨s, run, facts⟩ := Option.any_eq_true _ _ |>.1 checked
  obtain ⟨waits, ⟨camera, slot, preview, shown, overflows⟩, t, later, crashed⟩ := by
    simpa only [decide_eq_true_eq, Option.any_eq_true] using facts
  exact ⟨s, t, camera, preview, run, slot, waits, shown, Option.isNone_iff_eq_none.1 overflows,
    later, crashed⟩

end CameraSystem

end Viewfinder
