import Mathlib.Data.List.OfFn
import Viewfinder.Image.Still
import Viewfinder.Proofs.Guarding
import Viewfinder.Proofs.Overlap

/-!
# What a still shows

A still is made of a frame in four stages: decoding, turning, cutting and encoding. Each is told
here by the points of the images (`Frame.color`, `IsTurned`, `shownIn`), so that what reaches the
encoder is told by the bytes of the frame and nothing beyond them.
-/

namespace Viewfinder

/-- What is given for the numbers below `n` if only those from `left` on, `width` of them, have
something to give. -/
theorem flatMap_range_window {α : Type} {n left width : Nat} (within : left + width ≤ n)
    (give : Nat → List α) (outside : ∀ i < n, ¬(left ≤ i ∧ i < left + width) → give i = []) :
    (List.range n).flatMap give = (List.range width).flatMap fun i => give (left + i) := by
  obtain ⟨rest, rfl⟩ : ∃ rest, n = left + width + rest := ⟨n - (left + width), by omega⟩
  have before : (List.range left).flatMap give = [] := by
    refine List.flatMap_eq_nil_iff.2 fun i mem => ?_
    have := List.mem_range.1 mem
    exact outside i (by omega) (by omega)
  have after : ((List.range rest).map (left + width + ·)).flatMap give = [] := by
    refine List.flatMap_eq_nil_iff.2 fun i mem => ?_
    obtain ⟨j, below, rfl⟩ := List.mem_map.1 mem
    have := List.mem_range.1 below
    exact outside _ (by omega) (by omega)
  rw [List.range_add, List.range_add, List.flatMap_append, List.flatMap_append, before, after,
    List.nil_append, List.append_nil, List.flatMap_map]

/-- Buffers with the same bytes at the first `n` places have as many of these places. -/
theorem min_size_congr {α : Type} {a b : Array α} {n : Nat} (agree : ∀ i < n, b[i]? = a[i]?) :
    min b.size n = min a.size n := by
  have le {a b : Array α} (agree : ∀ i < n, b[i]? = a[i]?) : min a.size n ≤ b.size := by
    by_contra beyond
    have last := agree b.size (by omega)
    rw [Array.getElem?_eq_none (Nat.le_refl _)] at last
    have := Array.getElem?_eq_none_iff.1 last.symm
    omega
  have := le agree
  have := le fun i below => (agree i below).symm
  omega

namespace Raster

variable {r : Raster} {w h : Nat}

/-- Pixels are kept row by row. -/
theorem toList_generate (w h : Nat) (color : Nat → Nat → Pixel) :
    (generate w h color).pixels.toList =
      (List.range h).flatMap fun y => (List.range w).map fun x => color x y := by
  have list {α : Type} (n : Nat) (give : Nat → α) :
      List.ofFn (fun i : Fin n => give i) = (List.range n).map give :=
    List.ext_getElem (by simp) (by simp)
  have place (y : Nat) (x : Fin w) :
      color ((w * y + x) % w) ((w * y + x) / w) = color x y := by
    rw [Nat.mul_add_mod, Nat.mod_eq_of_lt x.isLt, Nat.mul_add_div (Nat.zero_lt_of_lt x.isLt),
      Nat.div_eq_of_lt x.isLt, Nat.add_zero]
  simp only [generate, Array.toList_ofFn]
  rw [List.ofFn_mul', List.flatMap_def, ← list h]
  simp only [place]
  exact congrArg List.flatten (congrArg List.ofFn (funext fun y => list w fun x => color x y))

/-- The integer points of a raster. -/
def Has (r : Raster) (x y : Int) : Prop := 0 ≤ x ∧ x < r.width ∧ 0 ≤ y ∧ y < r.height

/-- The colours at the points that `crop` covers, row by row. -/
def shownIn (r : Raster) (crop : Rect) : List Pixel :=
  (List.range r.height).flatMap fun (y : Nat) => (List.range r.width).flatMap fun (x : Nat) =>
    if crop.Covers x y then [r.pixel x y] else []

/-- `turned` is `r` after a clockwise turn by a multiple of a right angle, and `r` itself for any
other angle. -/
def IsTurned (r : Raster) (degrees : UInt32) (turned : Raster) : Prop :=
  if degrees % 360 = 90 then
    turned.width = r.height ∧ turned.height = r.width ∧
      ∀ x < r.height, ∀ y < r.width, turned.pixel x y = r.pixel y (r.height - 1 - x)
  else if degrees % 360 = 180 then
    turned.width = r.width ∧ turned.height = r.height ∧
      ∀ x < r.width, ∀ y < r.height,
        turned.pixel x y = r.pixel (r.width - 1 - x) (r.height - 1 - y)
  else if degrees % 360 = 270 then
    turned.width = r.height ∧ turned.height = r.width ∧
      ∀ x < r.height, ∀ y < r.width, turned.pixel x y = r.pixel (r.width - 1 - y) x
  else turned = r

theorem isTurned_rotate (r : Raster) (degrees : UInt32) :
    r.IsTurned degrees (r.rotate degrees) := by
  unfold IsTurned rotate
  split
  · exact ⟨rfl, rfl, fun x hx y hy => pixel_generate _ hx hy⟩
  split
  · exact ⟨rfl, rfl, fun x hx y hy => pixel_generate _ hx hy⟩
  split
  · exact ⟨rfl, rfl, fun x hx y hy => pixel_generate _ hx hy⟩
  · rfl

theorem rotate_sides (r : Raster) (degrees : UInt32) :
    (r.rotate degrees).width = r.width ∧ (r.rotate degrees).height = r.height ∨
      (r.rotate degrees).width = r.height ∧ (r.rotate degrees).height = r.width := by
  unfold rotate
  split
  · exact .inr ⟨rfl, rfl⟩
  split
  · exact .inl ⟨rfl, rfl⟩
  split
  · exact .inr ⟨rfl, rfl⟩
  · exact .inl ⟨rfl, rfl⟩

/-- Sides that have a place on 32-bit axes. -/
def Moderate (r : Raster) : Prop := r.width < 2 ^ 31 ∧ r.height < 2 ^ 31

theorem Moderate.rotate (moderate : r.Moderate) (degrees : UInt32) :
    (r.rotate degrees).Moderate := by
  unfold Moderate at *
  rcases r.rotate_sides degrees with ⟨wide, high⟩ | ⟨wide, high⟩ <;> rw [wide, high] <;> omega

namespace Moderate

theorem toInt_sides (moderate : r.Moderate) :
    r.bounds.right.toInt = r.width ∧ r.bounds.bottom.toInt = r.height := by
  obtain ⟨wide, high⟩ := moderate
  exact ⟨Int32.toInt_ofNat_of_lt wide, Int32.toInt_ofNat_of_lt high⟩

theorem anchored (moderate : r.Moderate) : r.bounds.Anchored where
  left := rfl
  top := rfl
  right := by rw [moderate.toInt_sides.1]; omega
  bottom := by rw [moderate.toInt_sides.2]; omega

theorem covers_bounds (moderate : r.Moderate) {x y : Int} : r.bounds.Covers x y ↔ r.Has x y := by
  simp only [Rect.Covers, Has, moderate.toInt_sides.1, moderate.toInt_sides.2,
    moderate.anchored.left, moderate.anchored.top]
  show 0 ≤ x ∧ _ ∧ 0 ≤ y ∧ _ ↔ _
  rfl

end Moderate

/-- Where a part of a raster was cut out, and its sides. -/
structure Window where
  left : Nat
  top : Nat
  width : Nat
  height : Nat

/-- A window takes from `r` the points that `crop` covers. -/
structure Window.Takes (window : Window) (r : Raster) (crop : Rect) : Prop where
  right : window.left + window.width ≤ r.width
  bottom : window.top + window.height ≤ r.height
  points (x y : Int) : crop.Covers x y ∧ r.Has x y ↔
    window.left ≤ x ∧ x < window.left + window.width ∧
      window.top ≤ y ∧ y < window.top + window.height

/-- A rectangle that shares a point with a raster cuts a window out of it. -/
theorem crop_common (moderate : r.Moderate) {crop : Rect}
    (shared : ∃ x y, crop.Covers x y ∧ r.bounds.Covers x y) :
    ∃ window : Window, window.Takes r crop ∧ r.crop (crop.common r.bounds) =
      generate window.width window.height fun x y =>
        r.pixel (window.left + x) (window.top + y) := by
  obtain ⟨right, bottom⟩ := moderate.toInt_sides
  have left : (r.bounds.left).toInt = 0 := rfl
  have top : (r.bounds.top).toInt = 0 := rfl
  simp only [← Rect.covers_common, Rect.exists_covers_iff] at shared
  have edges : 0 ≤ (crop.common r.bounds).left.toInt ∧ 0 ≤ (crop.common r.bounds).top.toInt ∧
      (crop.common r.bounds).right.toInt ≤ r.width ∧
      (crop.common r.bounds).bottom.toInt ≤ r.height := by
    simp only [Rect.common, Rect.toInt_max, Rect.toInt_min]
    omega
  refine ⟨⟨(crop.common r.bounds).left.toInt.toNat, (crop.common r.bounds).top.toInt.toNat,
    ((crop.common r.bounds).right.toInt - (crop.common r.bounds).left.toInt).toNat,
    ((crop.common r.bounds).bottom.toInt - (crop.common r.bounds).top.toInt).toNat⟩,
    ⟨by dsimp only; omega, by dsimp only; omega, fun x y => ?_⟩, rfl⟩
  rw [← moderate.covers_bounds, ← Rect.covers_common, Rect.Covers]
  dsimp only
  omega

theorem Window.Takes.sides {window : Window} {crop : Rect} (takes : window.Takes r crop)
    (moderate : r.Moderate) : (UInt32.ofNat window.width).toNat = window.width ∧
      (UInt32.ofNat window.height).toNat = window.height := by
  obtain ⟨wide, high⟩ := moderate
  have right := takes.right
  have bottom := takes.bottom
  rw [UInt32.toNat_ofNat', UInt32.toNat_ofNat']
  omega

/-- Row by row, the window shows what the rectangle covers. -/
theorem Window.Takes.shownIn {window : Window} {crop : Rect} (takes : window.Takes r crop) :
    (generate window.width window.height fun x y =>
      r.pixel (window.left + x) (window.top + y)).pixels.toList = r.shownIn crop := by
  have right := takes.right
  have bottom := takes.bottom
  have covers (x y : Nat) (hx : x < r.width) (hy : y < r.height) : crop.Covers x y ↔
      (window.left ≤ x ∧ x < window.left + window.width) ∧
        window.top ≤ y ∧ y < window.top + window.height := by
    have has : r.Has x y := by unfold Has; omega
    rw [← and_iff_left (a := crop.Covers x y) has, takes.points]
    omega
  rw [toList_generate, Raster.shownIn, flatMap_range_window bottom]
  · simp only [List.flatMap_def]
    congr 1
    refine List.map_congr_left fun y mem => ?_
    have below := List.mem_range.1 mem
    rw [← List.flatMap_def, flatMap_range_window right, List.map_eq_flatMap, List.flatMap_def,
      List.flatMap_def]
    · congr 1
      refine List.map_congr_left fun x mem => ?_
      have below' := List.mem_range.1 mem
      rw [if_pos ((covers _ _ (by omega) (by omega)).2 (by omega))]
    · intro x hx outside
      exact if_neg fun covered => outside ((covers x _ hx (by omega)).1 covered).1
  · intro y hy outside
    refine List.flatMap_eq_nil_iff.2 fun x mem => if_neg fun covered => outside ?_
    exact ((covers x y (List.mem_range.1 mem) hy).1 covered).2

theorem toJpeg_eq_error {quality : UInt8} {e : CaptureError}
    (failed : r.toJpeg quality = .error e) : ∃ details, e = .encoding details := by
  unfold toJpeg at failed
  split at failed
  · exact ⟨_, (Except.error.inj failed).symm⟩
  · cases failed

/-- Whatever is made of the file, the encoder's failures are its own. -/
theorem map_toJpeg_eq_error {α : Type} {quality : UInt8} {make : Array UInt8 → α}
    {e : CaptureError} (failed : (r.toJpeg quality).map make = .error e) :
    ∃ details, e = .encoding details := by
  cases encoded : r.toJpeg quality with
  | error e' =>
    rw [encoded] at failed
    cases failed
    exact toJpeg_eq_error encoded
  | ok bytes =>
    rw [encoded] at failed
    cases failed

end Raster

namespace Frame

variable {f g : Frame} {rotation : UInt32} {crop : Rect} {quality : UInt8} {decoded : Raster}

/-- As long as the count of its bytes does not wrap, a frame is unreadable or decodes. -/
theorem decode_cases (f : Frame) (moderate : f.size.Moderate) :
    f.Unreadable ∧ f.decode = .error (.decode f.complaint) ∨
      ¬f.Unreadable ∧
        f.decode = .ok (.generate f.size.width.toNat f.size.height.toNat f.color) := by
  have held : f.needed < 2 ^ 64 := f.format.pixelBytes_lt moderate
  have below := f.expectedBytes_le
  rcases f.decode_outcomes with ⟨turned, said⟩ | ⟨-, misjudged, -⟩ | ⟨-, wraps, -⟩ |
    ⟨readable, -, made⟩
  · exact .inl ⟨turned.imp_left fun short => by omega, said⟩
  · exact absurd misjudged.wraps (Nat.not_le.2 held)
  · exact absurd wraps (Nat.not_le.2 held)
  · exact .inr ⟨readable, made⟩

/-- The colours within a frame come from the bytes that it has to have. -/
theorem color_congr (format : g.format = f.format) (size : g.size = f.size)
    (agree : ∀ i < f.needed, g.data[i]? = f.data[i]?) {x y : Nat}
    (hx : x < f.size.width.toNat) (hy : y < f.size.height.toNat) : g.color x y = f.color x y := by
  unfold needed at agree
  unfold color
  rw [format, size]
  cases kind : f.format with
  | nv21 =>
    rw [kind] at agree
    exact Nv21.pixel_congr fun i read => agree i (Nv21.lt_of_mem_reads hx hy read)
  | rgb24 =>
    rw [kind] at agree
    have place := Raster.index_lt hx hy
    have byte (i : Nat)
        (below : i < FrameFormat.rgb24.pixelBytes f.size.width.toNat f.size.height.toNat) :
        g.data.getD i 0 = f.data.getD i 0 := by
      rw [Array.getD_eq_getD_getElem?, Array.getD_eq_getD_getElem?, agree i below]
    simp only [FrameFormat.pixelBytes, Nat.mul_assoc] at byte
    dsimp only [Rgb24.pixel]
    rw [byte _ (by omega), byte _ (by omega), byte _ (by omega)]

theorem needed_congr (format : g.format = f.format) (size : g.size = f.size) :
    g.needed = f.needed := by
  rw [needed, needed, format, size]

theorem unreadable_congr (format : g.format = f.format) (size : g.size = f.size)
    (agree : ∀ i < f.needed, g.data[i]? = f.data[i]?) : g.Unreadable ↔ f.Unreadable := by
  have length := min_size_congr agree
  have missing : g.data.size < f.needed ↔ f.data.size < f.needed := by omega
  simp only [Unreadable, Blank, needed_congr format size, missing, format, size]

/-- Equal bytes up to those that are needed decode equally. Of a frame without extent it is said
how many there are in all. -/
theorem decode_congr (moderate : f.size.Moderate) (format : g.format = f.format)
    (size : g.size = f.size) (agree : ∀ i < f.needed, g.data[i]? = f.data[i]?)
    (told : f.Blank → g.data.size = f.data.size) : g.decode = f.decode := by
  have same := unreadable_congr format size agree
  rcases f.decode_cases moderate with ⟨broken, said⟩ | ⟨readable, made⟩ <;>
    rcases g.decode_cases (size ▸ moderate) with ⟨broken', said'⟩ | ⟨readable', made'⟩
  · have length : g.data.size = f.data.size := by
      rcases broken with short | blank
      · have := min_size_congr agree
        omega
      · exact told blank
    rw [said, said', complaint, complaint, expectedBytes, expectedBytes, format, size, length]
  · exact absurd (same.2 broken) readable'
  · exact absurd (same.1 broken') readable
  · rw [made, made', size,
      Raster.generate_congr fun x hx y hy => color_congr format size agree hx hy]

theorem still_congr (same : g.decode = f.decode) :
    g.still rotation crop quality = f.still rotation crop quality := by
  simp only [still, part, same]

theorem still_of_unreadable (moderate : f.size.Moderate) (unreadable : f.Unreadable) :
    f.still rotation crop quality = .error (.decode f.complaint) := by
  obtain ⟨-, said⟩ := (f.decode_cases moderate).resolve_right fun made => made.1 unreadable
  simp only [still, part, said]

theorem still_of_none (made : f.decode = .ok decoded)
    (apart : crop.intersect? (decoded.rotate rotation).bounds = some none) :
    ∃ details, f.still rotation crop quality = .error (.emptyCrop details) := by
  simp only [still, part, made, apart]
  exact ⟨_, rfl⟩

/-- The part that is cut out goes to the encoder, and its sides with the bytes that come back. -/
theorem still_of_some (quality : UInt8) {region : Rect} (made : f.decode = .ok decoded)
    (cut : crop.intersect? (decoded.rotate rotation).bounds = some (some region)) :
    f.still rotation crop quality =
      (((decoded.rotate rotation).crop region).toJpeg quality).map
        (⟨·, ⟨UInt32.ofNat ((decoded.rotate rotation).crop region).width,
          UInt32.ofNat ((decoded.rotate rotation).crop region).height⟩⟩) := by
  simp only [still, part, made, cut]
  cases ((decoded.rotate rotation).crop region).toJpeg quality <;> rfl

/-- A decoded frame becomes a still of a window, if the rectangle leaves one. -/
theorem still_cases (quality : UInt8) (made : f.decode = .ok decoded) (moderate : decoded.Moderate)
    (ordered : crop.Ordered) :
    (¬∃ x y, crop.Covers x y ∧ (decoded.rotate rotation).Has x y) ∧
        (∃ details, f.still rotation crop quality = .error (.emptyCrop details)) ∨
      (∃ x y, crop.Covers x y ∧ (decoded.rotate rotation).Has x y) ∧
        ∃ window : Raster.Window, window.Takes (decoded.rotate rotation) crop ∧
          f.still rotation crop quality =
            ((Raster.generate window.width window.height fun x y =>
              (decoded.rotate rotation).pixel (window.left + x) (window.top + y)).toJpeg
              quality).map (⟨·, ⟨UInt32.ofNat window.width, UInt32.ofNat window.height⟩⟩) := by
  have moderate := moderate.rotate rotation
  simp only [← moderate.covers_bounds]
  rcases (moderate.anchored.measured_common ordered).intersect?_cases with
    ⟨apart, none_⟩ | ⟨shared, some_⟩
  · exact .inl ⟨apart, still_of_none made none_⟩
  · obtain ⟨window, takes, cut⟩ := Raster.crop_common moderate shared
    have still := still_of_some quality made some_
    rw [cut] at still
    exact .inr ⟨shared, window, takes, still⟩

/-- A still of a decoded frame is refused as empty only for want of a common point. -/
theorem still_empty_iff (quality : UInt8) (made : f.decode = .ok decoded)
    (moderate : decoded.Moderate) (ordered : crop.Ordered) :
    (∃ details, f.still rotation crop quality = .error (.emptyCrop details)) ↔
      ¬∃ x y, crop.Covers x y ∧ (decoded.rotate rotation).Has x y := by
  rcases still_cases quality made moderate ordered with
    ⟨apart, empty⟩ | ⟨shared, window, -, still⟩
  · exact iff_of_true empty apart
  · refine iff_of_false ?_ (not_not_intro shared)
    rintro ⟨details, failed⟩
    obtain ⟨_, encoding⟩ := Raster.map_toJpeg_eq_error (still.symm.trans failed)
    cases encoding

/-- A still is refused as undecodable exactly for a frame that misses bytes or, for NV21, extent.
Else the frame decodes and is turned, and the still is refused as empty exactly if the rectangle
covers no point of the turned image. If it covers some, then these points, row by row, are the
image that goes to the encoder, and the size that is given back is its size. Bytes beyond those that
are needed do not count, whichever and however many they are: only in what is said when an NV21
frame without extent is refused, their number stands. -/
theorem still_exact (f : Frame) (rotation : UInt32) (crop : Rect) (quality : UInt8)
    (moderate : f.size.Moderate) (ordered : crop.Ordered) :
    ((∃ details, f.still rotation crop quality = .error (.decode details)) ↔ f.Unreadable) ∧
    (f.Unreadable → f.still rotation crop quality = .error (.decode f.complaint)) ∧
    (¬f.Unreadable → ∃ decoded turned : Raster, f.decode = .ok decoded ∧
      decoded.width = f.size.width.toNat ∧ decoded.height = f.size.height.toNat ∧
      (∀ x < decoded.width, ∀ y < decoded.height, decoded.pixel x y = f.color x y) ∧
      decoded.IsTurned rotation turned ∧
      ((∃ details, f.still rotation crop quality = .error (.emptyCrop details)) ↔
        ¬∃ x y, crop.Covers x y ∧ turned.Has x y) ∧
      ((∃ x y, crop.Covers x y ∧ turned.Has x y) →
        ∃ (part : Raster) (window : Raster.Window) (size : Size),
          window.Takes turned crop ∧ part.width = window.width ∧ part.height = window.height ∧
          part.pixels.toList = turned.shownIn crop ∧
          size.width.toNat = part.width ∧ size.height.toNat = part.height ∧
          f.still rotation crop quality = (part.toJpeg quality).map (⟨·, size⟩) ∧
          ∀ e, part.toJpeg quality = .error e → ∃ details, e = .encoding details)) ∧
    ∀ g : Frame, g.format = f.format → g.size = f.size →
      (∀ i < f.needed, g.data[i]? = f.data[i]?) →
      (g.data.size = f.data.size →
        g.still rotation crop quality = f.still rotation crop quality) ∧
      (g.still rotation crop quality = f.still rotation crop quality ∨
        f.Blank ∧ g.still rotation crop quality = .error (.decode g.complaint) ∧
          f.still rotation crop quality = .error (.decode f.complaint)) := by
  refine ⟨?_, still_of_unreadable moderate, fun readable => ?_,
    fun g format size agree => ⟨fun length => ?_, ?_⟩⟩
  · rcases f.decode_cases moderate with ⟨unreadable, -⟩ | ⟨readable, made⟩
    · exact iff_of_true ⟨_, still_of_unreadable moderate unreadable⟩ unreadable
    · refine iff_of_false ?_ readable
      rintro ⟨details, failed⟩
      rcases still_cases quality made moderate ordered with ⟨-, _, empty⟩ | ⟨-, window, -, still⟩
      · cases empty.symm.trans failed
      · obtain ⟨_, encoding⟩ := Raster.map_toJpeg_eq_error (still.symm.trans failed)
        cases encoding
  · obtain ⟨-, made⟩ := (f.decode_cases moderate).resolve_left fun broken => readable broken.1
    have sides : Raster.Moderate (.generate f.size.width.toNat f.size.height.toNat f.color) :=
      moderate
    refine ⟨_, _, made, rfl, rfl, fun x hx y hy => Raster.pixel_generate _ hx hy,
      Raster.isTurned_rotate _ rotation, ?_, fun shared => ?_⟩
    · rcases still_cases quality made moderate ordered with
        ⟨apart, empty⟩ | ⟨shared, window, -, still⟩
      · exact iff_of_true empty apart
      · refine iff_of_false ?_ (not_not_intro shared)
        rintro ⟨details, failed⟩
        obtain ⟨_, encoding⟩ := Raster.map_toJpeg_eq_error (still.symm.trans failed)
        cases encoding
    · rcases still_cases quality made moderate ordered with
        ⟨apart, -⟩ | ⟨-, window, takes, still⟩
      · exact absurd shared apart
      · obtain ⟨width, height⟩ := takes.sides (sides.rotate rotation)
        exact ⟨_, window, _, takes, rfl, rfl, takes.shownIn, width, height, still,
          fun e failed => Raster.toJpeg_eq_error failed⟩
  · exact still_congr (decode_congr moderate format size agree fun _ => length)
  · by_cases blank : f.Blank
    · have unreadable : f.Unreadable := .inr blank
      have unreadable' := (unreadable_congr format size agree).2 unreadable
      exact .inr ⟨blank, still_of_unreadable (size ▸ moderate) unreadable',
        still_of_unreadable moderate unreadable⟩
    · exact .inl (still_congr (decode_congr moderate format size agree fun h => absurd h blank))

/-- Two pixels side by side, turned by five quarters: the rectangle leaves the lower one, and a byte
too many does not show. -/
theorem still_exact_turned :
    let f : Frame := ⟨0, ⟨2, 1⟩, .rgb24, #[1, 2, 3, 4, 5, 6, 7]⟩
    ∃ part : Raster, part.width = 1 ∧ part.height = 1 ∧ part.pixels.toList = [⟨4, 5, 6⟩] ∧
      f.still 450 ⟨-5, 1, 5, 9⟩ 80 = (part.toJpeg 80).map (⟨·, ⟨1, 1⟩⟩) := by
  intro f
  have readable : ¬f.Unreadable := by unfold Unreadable Blank; decide
  obtain ⟨-, -, shown, -⟩ := still_exact f 450 ⟨-5, 1, 5, 9⟩ 80
    (by unfold Size.Moderate; decide) (by decide)
  obtain ⟨decoded, turned, -, width, height, colors, turn, -, shared⟩ := shown readable
  have wide : decoded.width = 2 := width
  have high : decoded.height = 1 := height
  unfold Raster.IsTurned at turn
  rw [if_pos (by decide), wide, high] at turn
  obtain ⟨turnedWide, turnedHigh, pixels⟩ := turn
  have corner : turned.pixel 0 1 = ⟨4, 5, 6⟩ := by
    rw [pixels 0 (by decide) 1 (by decide), colors 1 (by omega) 0 (by omega)]
    rfl
  obtain ⟨part, window, size, takes, w, h, listed, sw, sh, still, -⟩ :=
    shared ⟨0, 1, by decide, by unfold Raster.Has; omega⟩
  have one : part.pixels.toList = [⟨4, 5, 6⟩] := by
    rw [listed, Raster.shownIn, turnedHigh, turnedWide, ← corner]
    rfl
  have area : part.width * part.height = 1 := by
    rw [← part.size_eq, ← Array.length_toList, one]
    rfl
  have wide := Nat.eq_one_of_mul_eq_one_right area
  have high := Nat.eq_one_of_mul_eq_one_left area
  rw [wide] at sw
  rw [high] at sh
  obtain rfl : size = ⟨1, 1⟩ := by
    cases size
    exact congrArg₂ Size.mk (UInt32.toNat_inj.1 sw) (UInt32.toNat_inj.1 sh)
  exact ⟨part, wide, high, one, still⟩

end Frame

end Viewfinder
