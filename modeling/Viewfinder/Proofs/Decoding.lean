import Mathlib.Algebra.Group.Nat.Defs
import Mathlib.Order.Bounds.Basic
import Viewfinder.Image.Decode

/-!
# Which bytes a frame is decoded from

With sides below 2 ^ 31 the number of bytes that a frame takes does not wrap. For NV21 it is one
more than the greatest index that any pixel reads (`isGreatest_reads`), so that the buffers that
are accepted are those of which every pixel can be read with each access checked (`pixel?`).
-/

namespace Viewfinder

/-- Sides that a signed 32-bit coordinate reaches. -/
def Size.Moderate (size : Size) : Prop := size.width.toNat < 2 ^ 31 ∧ size.height.toNat < 2 ^ 31

/-- A raster is what it shows at its own points. -/
theorem Raster.generate_congr {w h : Nat} {color color' : Nat → Nat → Pixel}
    (same : ∀ x < w, ∀ y < h, color x y = color' x y) :
    generate w h color = generate w h color' := by
  unfold generate
  congr 2
  funext i
  have hw : 0 < w := Nat.pos_of_lt_mul_right i.isLt
  exact same _ (Nat.mod_lt _ hw) _ ((Nat.div_lt_iff_lt_mul hw).2 (Nat.mul_comm w h ▸ i.isLt))

namespace FrameFormat

theorem pixelBytes_lt (format : FrameFormat) {size : Size} (moderate : size.Moderate) :
    format.pixelBytes size.width.toNat size.height.toNat < 2 ^ 64 := by
  obtain ⟨wide, high⟩ := moderate
  have area : size.width.toNat * size.height.toNat ≤ 2 ^ 31 * 2 ^ 31 :=
    Nat.mul_le_mul (by omega) (by omega)
  have chroma : (size.width.toNat + 1) / 2 * ((size.height.toNat + 1) / 2) ≤ 2 ^ 30 * 2 ^ 30 :=
    Nat.mul_le_mul (by omega) (by omega)
  cases format <;> simp only [pixelBytes, Nat.mul_assoc] <;> omega

/-- No step of the count leaves 64 bits. -/
theorem toNat_byteCount (format : FrameFormat) {size : Size} (moderate : size.Moderate) :
    (format.byteCount size).toNat = format.pixelBytes size.width.toNat size.height.toNat :=
  (format.toNat_byteCount_eq_mod size).trans (Nat.mod_eq_of_lt (format.pixelBytes_lt moderate))

end FrameFormat

namespace Nv21

variable {data other more : Array UInt8} {size : Size} {image : Raster} {w h x y : Nat}

/-- The bytes before and from a place, if it is not beyond the last. -/
def splitAt? (bytes : Array UInt8) (place : Nat) : Option (Array UInt8 × Array UInt8) :=
  if place ≤ bytes.size then some (bytes.extract 0 place, bytes.extract place) else none

/-- The colour at a point, read plane by plane with each access checked: the luma and the chroma
are cut out of the buffer, the chroma row out of the chroma, and each is indexed from its start. -/
def pixel? (data : Array UInt8) (w h x y : Nat) : Option Pixel := do
  let (luma, chroma) ← splitAt? data (w * h)
  let (_, row) ← splitAt? chroma (y / 2 * chromaStride w)
  let l ← luma[y * w + x]?
  let v ← row[x / 2 * 2]?
  let u ← row[x / 2 * 2 + 1]?
  return .ofYvu l v u

/-- The places in the buffer of the bytes that a pixel is made of: its luma, and the V and U of its
block of two by two pixels. -/
def reads (w h x y : Nat) : List Nat :=
  let block := w * h + y / 2 * (2 * ((w + 1) / 2)) + 2 * (x / 2)
  [y * w + x, block, block + 1]

theorem reads_eq (w h x y : Nat) :
    reads w h x y = [lumaIndex w x y, chromaIndex w h x y, chromaIndex w h x y + 1] := by
  simp only [reads, lumaIndex, chromaIndex, chromaStride, Nat.mul_comm (x / 2) 2]

theorem lumaIndex_lt (hx : x < w) (hy : y < h) : lumaIndex w x y < w * h := Raster.index_lt hx hy

/-- The two bytes of a block stand before the end of the chroma, for even and odd sides. -/
theorem chromaIndex_lt (hx : x < w) (hy : y < h) :
    chromaIndex w h x y + 1 < FrameFormat.nv21.pixelBytes w h := by
  have block := Raster.index_lt (show x / 2 < (w + 1) / 2 by omega)
    (show y / 2 < (h + 1) / 2 by omega)
  simp only [chromaIndex, chromaStride, FrameFormat.pixelBytes, Nat.mul_assoc,
    Nat.mul_left_comm _ 2]
  omega

/-- The block in the corner is the last one. -/
theorem chromaIndex_corner (hw : 0 < w) (hh : 0 < h) :
    chromaIndex w h (w - 1) (h - 1) + 2 = FrameFormat.nv21.pixelBytes w h := by
  obtain ⟨column, columns⟩ : ∃ column, (w + 1) / 2 = column + 1 := ⟨(w - 1) / 2, by omega⟩
  obtain ⟨row, rows⟩ : ∃ row, (h + 1) / 2 = row + 1 := ⟨(h - 1) / 2, by omega⟩
  have x : (w - 1) / 2 = column := by omega
  have y : (h - 1) / 2 = row := by omega
  simp only [chromaIndex, chromaStride, FrameFormat.pixelBytes, columns, rows, x, y, Nat.mul_assoc,
    Nat.mul_left_comm _ 2, Nat.mul_comm (column + 1), Nat.add_one_mul row]
  omega

theorem lt_of_mem_reads (hx : x < w) (hy : y < h) {i : Nat} (read : i ∈ reads w h x y) :
    i < FrameFormat.nv21.pixelBytes w h := by
  have luma := lumaIndex_lt hx hy
  have chroma := chromaIndex_lt hx hy
  have whole : w * h ≤ FrameFormat.nv21.pixelBytes w h := Nat.le_add_right _ _
  simp only [reads_eq, List.mem_cons, List.not_mem_nil, or_false] at read
  omega

theorem isGreatest_reads (hw : 0 < w) (hh : 0 < h) :
    IsGreatest {i | ∃ x < w, ∃ y < h, i ∈ reads w h x y}
      (FrameFormat.nv21.pixelBytes w h - 1) := by
  constructor
  · refine ⟨w - 1, by omega, h - 1, by omega, ?_⟩
    rw [← chromaIndex_corner hw hh, reads_eq]
    simp
  · rintro i ⟨x, hx, y, hy, read⟩
    exact Nat.le_sub_one_of_lt (lt_of_mem_reads hx hy read)

/-- An access within a part that was cut out, seen from the whole buffer. -/
theorem getElem?_cut (bytes : Array UInt8) (place i : Nat) :
    (bytes.extract place)[i]? = bytes[place + i]? := by
  rw [Array.getElem?_extract]
  split
  · rfl
  · rw [Array.getElem?_eq_none (by omega)]

theorem getElem?_chromaRow (data : Array UInt8) (w h x y i : Nat) :
    ((data.extract (w * h)).extract (y / 2 * chromaStride w))[x / 2 * 2 + i]? =
      data[chromaIndex w h x y + i]? := by
  rw [getElem?_cut, getElem?_cut, chromaIndex, Nat.add_assoc, Nat.add_assoc]

theorem getElem?_eq_some_getD {i : Nat} (within : i < data.size) :
    data[i]? = some (data.getD i 0) := by
  simp [within]

/-- All accesses of a pixel succeed exactly if that of its U byte does. -/
theorem pixel?_eq (hx : x < w) (hy : y < h) :
    pixel? data w h x y =
      if chromaIndex w h x y + 1 < data.size then some (pixel data w h x y) else none := by
  have luma := lumaIndex_lt hx hy
  split
  · next enough =>
    have place : w * h + y / 2 * chromaStride w ≤ data.size := by
      unfold chromaIndex at enough
      omega
    have chroma : w * h ≤ data.size := by omega
    have row : y / 2 * chromaStride w ≤ (data.extract (w * h)).size := by
      rw [Array.size_extract]
      omega
    have l : (data.extract 0 (w * h))[y * w + x]? = some (data.getD (lumaIndex w x y) 0) := by
      rw [← lumaIndex, Array.getElem?_extract, if_pos (by omega), Nat.zero_add]
      exact getElem?_eq_some_getD (by omega)
    have v := (getElem?_chromaRow data w h x y 0).trans (getElem?_eq_some_getD (by omega))
    have u := (getElem?_chromaRow data w h x y 1).trans (getElem?_eq_some_getD (by omega))
    rw [Nat.add_zero, Nat.add_zero] at v
    simp only [pixel?, splitAt?, if_pos chroma, if_pos row, Option.bind_eq_bind, Option.bind_some,
      l, v, u]
    rfl
  · next short =>
    have u := (getElem?_chromaRow data w h x y 1).trans (Array.getElem?_eq_none (by omega))
    simp only [pixel?, splitAt?, Option.bind_eq_bind]
    split
    · simp only [Option.bind_some]
      split
      · simp only [Option.bind_some, u, Option.bind_none, Option.bind_fun_none]
      · rfl
    · rfl

/-- A buffer that is long enough for the last byte has every pixel, and a shorter one has not. -/
theorem isSome_pixel?_iff (hw : 0 < w) (hh : 0 < h) :
    (∀ x < w, ∀ y < h, (pixel? data w h x y).isSome) ↔
      FrameFormat.nv21.pixelBytes w h ≤ data.size := by
  constructor
  · intro whole
    have corner := whole (w - 1) (by omega) (h - 1) (by omega)
    rw [pixel?_eq (by omega) (by omega)] at corner
    have last := chromaIndex_corner hw hh
    split at corner
    · omega
    · cases corner
  · intro enough x hx y hy
    have chroma := chromaIndex_lt hx hy
    rw [pixel?_eq hx hy, if_pos (by omega)]
    rfl

/-- The buffers that are long enough for a frame with some extent. -/
def Whole (data : Array UInt8) (w h : Nat) : Prop :=
  0 < w ∧ 0 < h ∧ FrameFormat.nv21.pixelBytes w h ≤ data.size

theorem decode_cases (data : Array UInt8) (moderate : size.Moderate) :
    Whole data size.width.toNat size.height.toNat ∧ decode data size =
        .ok (.generate size.width.toNat size.height.toNat
          (pixel data size.width.toNat size.height.toNat)) ∨
      ¬Whole data size.width.toNat size.height.toNat ∧ decode data size = .error (.decode
        s!"NV21 frame {size} needs {FrameFormat.nv21.byteCount size} bytes, got {data.size}") := by
  have refused : (size.isEmpty = true ∨ data.size < (FrameFormat.nv21.byteCount size).toNat) ↔
      ¬Whole data size.width.toNat size.height.toNat := by
    have empty : size.isEmpty = true ↔ size.width.toNat = 0 ∨ size.height.toNat = 0 := by
      simp [Size.isEmpty, ← UInt32.toNat_inj]
    rw [empty, FrameFormat.nv21.toNat_byteCount moderate, Whole]
    omega
  by_cases whole : Whole data size.width.toNat size.height.toNat
  · exact .inl ⟨whole, by
      rw [decode, if_neg fun h => refused.1 h whole, if_neg (Nat.not_lt.2 whole.2.2)]⟩
  · exact .inr ⟨whole, by rw [decode, if_pos (refused.2 whole)]⟩

theorem decode_eq_ok_iff (moderate : size.Moderate) : decode data size = .ok image ↔
    Whole data size.width.toNat size.height.toNat ∧
      image = .generate size.width.toNat size.height.toNat
        (pixel data size.width.toNat size.height.toNat) := by
  rcases decode_cases data moderate with ⟨whole, made⟩ | ⟨part, refused⟩
  · simp [made, whole, eq_comm]
  · simp [refused, part]

theorem Whole.reads_lt (whole : Whole data w h) (hx : x < w) (hy : y < h) {i : Nat}
    (read : i ∈ reads w h x y) : i < data.size :=
  Nat.lt_of_lt_of_le (lt_of_mem_reads hx hy read) whole.2.2

theorem Whole.append (whole : Whole data w h) : Whole (data ++ more) w h :=
  ⟨whole.1, whole.2.1, Nat.le_trans whole.2.2 (by simp)⟩

/-- A pixel looks at no other bytes than those it reads. -/
theorem pixel_congr (same : ∀ i ∈ reads w h x y, other[i]? = data[i]?) :
    pixel other w h x y = pixel data w h x y := by
  simp only [reads_eq, List.forall_mem_cons, List.not_mem_nil, false_implies, implies_true,
    and_true] at same
  simp only [pixel, Array.getD_eq_getD_getElem?, same]

/-- A frame decodes exactly if it has some extent and its buffer the bytes that this takes, and is
refused as undecodable if not; then, and only then, no access of any pixel is out of range, and the
greatest place that is read is that of the last byte. A pixel is made of three bytes, of which the
two of chroma are the same for all pixels of a block of two by two, and nothing else in the buffer
bears on it, nor do bytes beyond the last. -/
theorem decode_exact (data : Array UInt8) (size : Size) (moderate : size.Moderate) :
    let w := size.width.toNat
    let h := size.height.toNat
    let needed := w * h + 2 * ((w + 1) / 2) * ((h + 1) / 2)
    ((∃ image, decode data size = .ok image) ↔ 0 < w ∧ 0 < h ∧ needed ≤ data.size) ∧
    (∀ e, decode data size = .error e → ∃ details, e = .decode details) ∧
    (0 < w → 0 < h →
      ((∀ x < w, ∀ y < h, (pixel? data w h x y).isSome) ↔ needed ≤ data.size) ∧
        IsGreatest {i | ∃ x < w, ∃ y < h, i ∈ reads w h x y} (needed - 1)) ∧
    ∀ image, decode data size = .ok image →
      image.width = w ∧ image.height = h ∧
      (∀ x < w, ∀ y < h, pixel? data w h x y = some (image.pixel x y)) ∧
      (∀ column row, ∃ v u, ∀ x < w, ∀ y < h, x / 2 = column → y / 2 = row →
        ∃ l, (reads w h x y).map (data[·]?) = [some l, some v, some u] ∧
          image.pixel x y = .ofYvu l v u) ∧
      (∀ other image', decode other size = .ok image' → ∀ x < w, ∀ y < h,
        (∀ i ∈ reads w h x y, other[i]? = data[i]?) → image'.pixel x y = image.pixel x y) ∧
      ∀ more, decode (data ++ more) size = .ok image := by
  intro w h needed
  refine ⟨⟨?_, fun whole => ⟨_, (decode_eq_ok_iff moderate).2 ⟨whole, rfl⟩⟩⟩, fun e failed => ?_,
    fun hw hh => ⟨isSome_pixel?_iff hw hh, isGreatest_reads hw hh⟩, fun image decoded => ?_⟩
  · rintro ⟨image, decoded⟩
    exact ((decode_eq_ok_iff moderate).1 decoded).1
  · rcases decode_cases data moderate with ⟨-, made⟩ | ⟨-, refused⟩
    · cases made.symm.trans failed
    · exact ⟨_, Except.error.inj (failed.symm.trans refused)⟩
  obtain ⟨whole, rfl⟩ : Whole data w h ∧ image = .generate w h (pixel data w h) :=
    (decode_eq_ok_iff moderate).1 decoded
  have shown {x y : Nat} (hx : x < w) (hy : y < h) :
      (Raster.generate w h (pixel data w h)).pixel x y = pixel data w h x y :=
    Raster.pixel_generate _ hx hy
  refine ⟨rfl, rfl, fun x hx y hy => ?_, fun column row => ?_,
    fun other image' decoded' x hx y hy same => ?_, fun more => ?_⟩
  · rw [pixel?_eq hx hy, if_pos (whole.reads_lt hx hy (by simp [reads_eq])), shown hx hy]
  · let block := w * h + row * chromaStride w + column * 2
    refine ⟨data.getD block 0, data.getD (block + 1) 0, ?_⟩
    rintro x hx y hy rfl rfl
    refine ⟨data.getD (lumaIndex w x y) 0, ?_, shown hx hy⟩
    have within := fun i => whole.reads_lt hx hy (i := i)
    simp only [reads_eq, List.forall_mem_cons] at within
    simp only [reads_eq, List.map_cons, List.map_nil, getElem?_eq_some_getD within.1,
      getElem?_eq_some_getD within.2.1, getElem?_eq_some_getD within.2.2.1]
    rfl
  · obtain ⟨-, rfl⟩ : Whole other w h ∧ image' = .generate w h (pixel other w h) :=
      (decode_eq_ok_iff moderate).1 decoded'
    rw [Raster.pixel_generate _ hx hy, shown hx hy, pixel_congr same]
  · refine (decode_eq_ok_iff moderate).2 ⟨whole.append, Raster.generate_congr fun x hx y hy => ?_⟩
    refine pixel_congr fun i read => ?_
    rw [Array.getElem?_append_left (whole.reads_lt hx hy read)]

/-- Three by three pixels have four blocks, and the last byte is the U of the last pixel. -/
theorem decode_exact_odd :
    (∃ image, decode (Array.replicate 17 128) ⟨3, 3⟩ = .ok image ∧ image.width = 3 ∧
      decode (Array.replicate 17 128 ++ #[7]) ⟨3, 3⟩ = .ok image) ∧
    (¬∃ image, decode (Array.replicate 16 128) ⟨3, 3⟩ = .ok image) ∧
    IsGreatest {i | ∃ x < 3, ∃ y < 3, i ∈ reads 3 3 x y} 16 ∧ reads 3 3 2 2 = [8, 15, 16] := by
  have moderate : Size.Moderate ⟨3, 3⟩ := by unfold Size.Moderate; decide
  obtain ⟨accepted, -, -, decoded⟩ := decode_exact (Array.replicate 17 128) ⟨3, 3⟩ moderate
  obtain ⟨short, -, tight, -⟩ := decode_exact (Array.replicate 16 128) ⟨3, 3⟩ moderate
  obtain ⟨image, made⟩ := accepted.2 (by decide)
  obtain ⟨width, -, -, -, -, longer⟩ := decoded image made
  exact ⟨⟨image, made, width, longer #[7]⟩, fun made => absurd (short.1 made) (by decide),
    (tight (by decide) (by decide)).2, rfl⟩

end Nv21

end Viewfinder
