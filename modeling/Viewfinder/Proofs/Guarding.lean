import Viewfinder.Proofs.Decoding
import Viewfinder.Proofs.Words

/-!
# The guard before a frame is read

Whether a buffer is long enough is decided by a count in 64-bit words. `byteCount?` is the same
count that gives up where it would leave them; it is exact wherever it gives a number
(`byteCount?_eq_some_iff`). Where it gives none the guard compares with what is left of the count,
and may let a buffer pass that is too short (`Frame.Misjudged`): an NV21 frame is then read beyond
its end, while the image of an RGB frame is refused. All that decoding can come to is told by
`Frame.decode_outcomes`.
-/

namespace Viewfinder

namespace FrameFormat

/-- `byteCount`, with its operations checked. -/
def byteCount? (format : FrameFormat) (size : Size) : Option UInt64 :=
  let w := size.width.toUInt64
  let h := size.height.toUInt64
  match format with
  | nv21 => do
    let luma ← counted (w.toNat * h.toNat)
    let columns ← counted (2 * ((w + 1) / 2).toNat)
    let chroma ← counted (columns.toNat * ((h + 1) / 2).toNat)
    counted (luma.toNat + chroma.toNat)
  | rgb24 => do
    let area ← counted (w.toNat * h.toNat)
    counted (area.toNat * 3)

/-- No operation of the count leaves 64 bits exactly if the number of bytes has a place there. -/
theorem byteCount?_eq_some_iff {format : FrameFormat} {size : Size} {n : UInt64} :
    format.byteCount? size = some n ↔
      n.toNat = format.pixelBytes size.width.toNat size.height.toNat := by
  have bound := n.toNat_lt
  cases format with
  | nv21 =>
    simp only [byteCount?, pixelBytes, Option.bind_eq_bind, Option.bind_eq_some_iff,
      counted_eq_some_iff, toNat_half, UInt32.toNat_toUInt64]
    constructor
    · rintro ⟨luma, hLuma, columns, hColumns, chroma, hChroma, sum⟩
      rw [sum, hLuma, hChroma, hColumns]
    · intro sum
      have columns : 2 * ((size.width.toNat + 1) / 2) < 2 ^ 64 := by
        have := size.width.toNat_lt
        omega
      obtain ⟨luma, hLuma⟩ := exists_toNat_eq (n := size.width.toNat * size.height.toNat) (by omega)
      obtain ⟨columns, hColumns⟩ := exists_toNat_eq columns
      obtain ⟨chroma, hChroma⟩ := exists_toNat_eq
        (n := columns.toNat * ((size.height.toNat + 1) / 2)) (by rw [hColumns]; omega)
      exact ⟨luma, hLuma, columns, hColumns, chroma, hChroma, by rw [sum, hLuma, hChroma, hColumns]⟩
  | rgb24 =>
    simp only [byteCount?, pixelBytes, Option.bind_eq_bind, Option.bind_eq_some_iff,
      counted_eq_some_iff, UInt32.toNat_toUInt64, Nat.mul_assoc]
    constructor
    · rintro ⟨area, hArea, product⟩
      rw [product, hArea, Nat.mul_comm]
    · intro product
      obtain ⟨area, hArea⟩ := exists_toNat_eq (n := size.width.toNat * size.height.toNat) (by omega)
      exact ⟨area, hArea, by rw [product, hArea, Nat.mul_comm]⟩

end FrameFormat

namespace Frame

variable {f : Frame}

/-- The colour that the bytes of a frame give to a point. -/
def color (f : Frame) (x y : Nat) : Pixel :=
  match f.format with
  | .nv21 => Nv21.pixel f.data f.size.width.toNat f.size.height.toNat x y
  | .rgb24 => Rgb24.pixel f.data f.size.width.toNat x y

/-- How many bytes the frame has to have. -/
def needed (f : Frame) : Nat := f.format.pixelBytes f.size.width.toNat f.size.height.toNat

/-- The frame has no extent, which only RGB allows. -/
def Blank (f : Frame) : Prop := f.format = .nv21 ∧ (f.size.width = 0 ∨ f.size.height = 0)

/-- The frame misses bytes or extent. -/
def Unreadable (f : Frame) : Prop := f.data.size < f.needed ∨ f.Blank

/-- What is said of an unreadable frame. -/
def complaint (f : Frame) : String :=
  match f.format with
  | .nv21 => s!"NV21 frame {f.size} needs {f.expectedBytes} bytes, got {f.data.size}"
  | .rgb24 => s!"RGB frame needs {f.expectedBytes} bytes, got {f.data.size}"

/-- The buffer is too short for the frame, and no shorter than what the count in words leaves. -/
def Misjudged (f : Frame) : Prop :=
  f.expectedBytes.toNat ≤ f.data.size ∧ f.data.size < f.needed

theorem expectedBytes_eq_mod (f : Frame) : f.expectedBytes.toNat = f.needed % 2 ^ 64 :=
  FrameFormat.toNat_byteCount_eq_mod f.format f.size

theorem expectedBytes_le (f : Frame) : f.expectedBytes.toNat ≤ f.needed :=
  FrameFormat.byteCount_le f.format f.size

/-- Only a count that wraps is misjudged by. -/
theorem Misjudged.wraps (h : f.Misjudged) : 2 ^ 64 ≤ f.needed := by
  obtain ⟨passed, short⟩ := h
  rw [expectedBytes_eq_mod] at passed
  omega

theorem Blank.needed_eq (blank : f.Blank) : f.needed = 0 := by
  obtain ⟨format, empty | empty⟩ := blank <;>
    simp [needed, FrameFormat.pixelBytes, format, empty]

theorem blank_iff (kind : f.format = .nv21) : f.Blank ↔ f.size.isEmpty = true := by
  simp [Blank, kind, Size.isEmpty]

theorem decode_of_nv21 (kind : f.format = .nv21) : f.decode =
    if f.size.isEmpty = true ∨ f.data.size < f.expectedBytes.toNat then
      Except.error (.decode f.complaint)
    else if f.data.size < f.needed then Except.error .crashed
    else Except.ok (.generate f.size.width.toNat f.size.height.toNat f.color) := by
  obtain ⟨id, size, format, data⟩ := f
  obtain rfl : format = .nv21 := kind
  rfl

theorem decode_of_rgb24 (kind : f.format = .rgb24) : f.decode =
    if f.data.size < f.expectedBytes.toNat then Except.error (.decode f.complaint)
    else if f.expectedBytes.toNat < f.needed then
      Except.error (.decode "RGB buffer does not match frame size")
    else Except.ok (.generate f.size.width.toNat f.size.height.toNat f.color) := by
  obtain ⟨id, size, format, data⟩ := f
  obtain rfl : format = .rgb24 := kind
  rfl

/-- What the decoder can come to. It complains of a frame that the guard turns away, and of the
frames that pass reads those that have their bytes. -/
theorem decode_outcomes (f : Frame) :
    (f.data.size < f.expectedBytes.toNat ∨ f.Blank) ∧ f.decode = .error (.decode f.complaint) ∨
    f.format = .nv21 ∧ f.Misjudged ∧ f.decode = .error .crashed ∨
    f.format = .rgb24 ∧ 2 ^ 64 ≤ f.needed ∧
      f.decode = .error (.decode "RGB buffer does not match frame size") ∨
    ¬f.Unreadable ∧ (f.format = .rgb24 → f.needed < 2 ^ 64) ∧
      f.decode = .ok (.generate f.size.width.toNat f.size.height.toNat f.color) := by
  have count := f.expectedBytes_eq_mod
  cases kind : f.format with
  | nv21 =>
    have made := decode_of_nv21 kind
    by_cases turned : f.size.isEmpty = true ∨ f.data.size < f.expectedBytes.toNat
    · exact .inl ⟨turned.symm.imp_right (blank_iff kind).2, made.trans (if_pos turned)⟩
    rw [if_neg turned] at made
    obtain ⟨extent, passed⟩ := not_or.1 turned
    by_cases short : f.data.size < f.needed
    · exact .inr (.inl ⟨rfl, ⟨Nat.le_of_not_lt passed, short⟩, made.trans (if_pos short)⟩)
    · exact .inr (.inr (.inr ⟨not_or.2 ⟨short, mt (blank_iff kind).1 extent⟩, nofun,
        made.trans (if_neg short)⟩))
  | rgb24 =>
    have made := decode_of_rgb24 kind
    have extent : ¬f.Blank := fun blank => by cases kind.symm.trans blank.1
    by_cases turned : f.data.size < f.expectedBytes.toNat
    · exact .inl ⟨.inl turned, made.trans (if_pos turned)⟩
    rw [if_neg turned] at made
    by_cases wrapped : f.expectedBytes.toNat < f.needed
    · exact .inr (.inr (.inl ⟨rfl, by omega, made.trans (if_pos wrapped)⟩))
    · have short : ¬f.data.size < f.needed := by omega
      exact .inr (.inr (.inr ⟨not_or.2 ⟨short, extent⟩, fun _ => by omega,
        made.trans (if_neg wrapped)⟩))

theorem decode_eq_crashed_iff :
    f.decode = .error .crashed ↔ f.format = .nv21 ∧ f.Misjudged := by
  constructor
  · intro crashed
    rcases f.decode_outcomes with ⟨-, said⟩ | ⟨kind, misjudged, -⟩ | ⟨-, -, said⟩ | ⟨-, -, made⟩
    · cases said.symm.trans crashed
    · exact ⟨kind, misjudged⟩
    · cases said.symm.trans crashed
    · cases made.symm.trans crashed
  · rintro ⟨kind, passed, short⟩
    rcases f.decode_outcomes with ⟨turned | blank, -⟩ | ⟨-, -, crashed⟩ | ⟨kind', -⟩ | ⟨readable, -⟩
    · omega
    · rw [blank.needed_eq] at short
      cases short
    · exact crashed
    · cases kind.symm.trans kind'
    · exact absurd (.inl short) readable

theorem decode_eq_ok_iff {image : Raster} : f.decode = .ok image ↔
    ¬f.Unreadable ∧ (f.format = .rgb24 → f.needed < 2 ^ 64) ∧
      image = .generate f.size.width.toNat f.size.height.toNat f.color := by
  have below := f.expectedBytes_le
  rcases f.decode_outcomes with ⟨turned, said⟩ | ⟨-, misjudged, said⟩ | ⟨kind, wraps, said⟩ |
    ⟨readable, held, made⟩
  · have unreadable : f.Unreadable := turned.imp_left fun short => by omega
    simp [said, unreadable]
  · have unreadable : f.Unreadable := .inl misjudged.2
    simp [said, unreadable]
  · exact ⟨fun made => absurd (said.symm.trans made) nofun,
      fun ⟨_, held, _⟩ => absurd (held kind) (Nat.not_lt.2 wraps)⟩
  · rw [made, Except.ok.injEq, eq_comm]
    exact ⟨fun eq => ⟨readable, held, eq⟩, fun h => h.2.2⟩

theorem needed_of_nv21 (kind : f.format = .nv21) :
    f.needed = FrameFormat.nv21.pixelBytes f.size.width.toNat f.size.height.toNat := by
  rw [needed, kind]

/-- Of a frame that is misjudged some pixel cannot be read. -/
theorem Misjudged.exists_pixel?_eq_none (misjudged : f.Misjudged) (kind : f.format = .nv21) :
    ∃ x < f.size.width.toNat, ∃ y < f.size.height.toNat,
      Nv21.pixel? f.data f.size.width.toNat f.size.height.toNat x y = none := by
  have some_ := misjudged.wraps
  have short := misjudged.2
  rw [needed_of_nv21 kind] at some_ short
  have hw : 0 < f.size.width.toNat := Nat.pos_of_ne_zero fun zero => by
    simp [FrameFormat.pixelBytes, zero] at some_
  have hh : 0 < f.size.height.toNat := Nat.pos_of_ne_zero fun zero => by
    simp [FrameFormat.pixelBytes, zero] at some_
  by_contra all
  push Not at all
  refine absurd ((Nv21.isSome_pixel?_iff hw hh).1 fun x hx y hy => ?_) (Nat.not_le.2 short)
  exact Option.isSome_iff_ne_none.2 (all x hx y hy)

/-- The count in words is that of the bytes that a frame takes, as long as 64 bits hold it, and what
is left of it beyond. The decoder returns a frame that has all its bytes, or complains that it does
not decode, exactly unless it is an NV21 frame that is too short and passes with what is left of a
count that wrapped: then an access is out of range. For a count that is held the guard is exact. -/
theorem decode_guarded (f : Frame) :
    let w := f.size.width.toNat
    let h := f.size.height.toNat
    let misread := f.format = .nv21 ∧ f.expectedBytes.toNat ≤ f.data.size ∧ f.data.size < f.needed
    (f.format = .nv21 → f.needed = w * h + 2 * ((w + 1) / 2) * ((h + 1) / 2)) ∧
    (f.format = .rgb24 → f.needed = 3 * w * h) ∧
    (∀ n, f.format.byteCount? f.size = some n ↔ n.toNat = f.needed) ∧
    (f.format.byteCount? f.size = none ↔ 2 ^ 64 ≤ f.needed) ∧
    f.expectedBytes.toNat = f.needed % 2 ^ 64 ∧
    (((∃ image, f.decode = .ok image ∧ f.needed ≤ f.data.size) ∨
      ∃ details, f.decode = .error (.decode details)) ↔ ¬misread) ∧
    (misread → 2 ^ 64 ≤ f.needed ∧ f.decode = .error .crashed ∧
      ∃ x < w, ∃ y < h, Nv21.pixel? f.data w h x y = none) ∧
    (f.format = .nv21 → ∀ image, f.decode = .ok image →
      ∀ x < w, ∀ y < h, (Nv21.pixel? f.data w h x y).isSome) ∧
    (f.needed < 2 ^ 64 →
      ((∃ image, f.decode = .ok image) ↔ f.needed ≤ f.data.size ∧ ¬f.Blank)) := by
  intro w h misread
  have counted (n : UInt64) : f.format.byteCount? f.size = some n ↔ n.toNat = f.needed :=
    FrameFormat.byteCount?_eq_some_iff
  refine ⟨needed_of_nv21, fun kind => by rw [needed, kind]; rfl, counted, ?_,
    f.expectedBytes_eq_mod, ⟨?_, fun safe => ?_⟩, fun ⟨kind, short⟩ => ?_,
    fun kind image made => ?_, fun held => ?_⟩
  · rw [← not_iff_not, ← ne_eq, Option.ne_none_iff_exists', Nat.not_le]
    exact ⟨fun ⟨n, some_⟩ => (counted n).1 some_ ▸ n.toNat_lt,
      fun held => (exists_toNat_eq held).imp fun n => (counted n).2⟩
  · rintro (⟨image, made, -⟩ | ⟨details, said⟩) misread
    · cases made.symm.trans (decode_eq_crashed_iff.2 misread)
    · cases said.symm.trans (decode_eq_crashed_iff.2 misread)
  · rcases f.decode_outcomes with ⟨-, said⟩ | ⟨kind, misjudged, -⟩ | ⟨-, -, said⟩ |
      ⟨readable, -, made⟩
    · exact .inr ⟨_, said⟩
    · exact absurd ⟨kind, misjudged⟩ safe
    · exact .inr ⟨_, said⟩
    · exact .inl ⟨_, made, Nat.le_of_not_lt (not_or.1 readable).1⟩
  · have misjudged : f.Misjudged := short
    exact ⟨misjudged.wraps, decode_eq_crashed_iff.2 ⟨kind, misjudged⟩,
      misjudged.exists_pixel?_eq_none kind⟩
  · have long := Nat.le_of_not_lt (not_or.1 (decode_eq_ok_iff.1 made).1).1
    rw [needed_of_nv21 kind] at long
    intro x hx y hy
    exact (Nv21.isSome_pixel?_iff (Nat.zero_lt_of_lt hx) (Nat.zero_lt_of_lt hy)).2 long x hx y hy
  · simp only [decode_eq_ok_iff, held, implies_true, true_and, exists_and_left, exists_eq, and_true,
      Unreadable, not_or, Nat.not_lt]

/-- Nine pixels and four blocks take 17 bytes, and are read from so many but not from 16. -/
theorem decode_guarded_odd :
    (FrameFormat.nv21.byteCount? ⟨3, 3⟩ = some 17) ∧
      (∃ image, (⟨0, ⟨3, 3⟩, .nv21, Array.replicate 17 128⟩ : Frame).decode = .ok image) ∧
      ¬∃ image, (⟨0, ⟨3, 3⟩, .nv21, Array.replicate 16 128⟩ : Frame).decode = .ok image := by
  obtain ⟨-, -, counted, -, -, -, -, -, enough⟩ :=
    decode_guarded ⟨0, ⟨3, 3⟩, .nv21, Array.replicate 17 128⟩
  obtain ⟨-, -, -, -, -, -, -, -, short⟩ :=
    decode_guarded ⟨0, ⟨3, 3⟩, .nv21, Array.replicate 16 128⟩
  refine ⟨(counted 17).2 (by decide), (enough (by decide)).2 ⟨by decide, ?_⟩, fun made => ?_⟩
  · rw [blank_iff rfl]
    decide
  · exact absurd ((short (by decide)).1 made).1 (by decide)

/-- A frame that takes four bytes more than 64 bits count passes with four bytes, and is read beyond
their end; of an RGB frame as large as there can be the count wraps too. -/
theorem guard_wrapped :
    let f : Frame := ⟨0, ⟨4294836226, 2863398913⟩, .nv21, #[0, 0, 0, 0]⟩
    f.needed = 2 ^ 64 + 4 ∧ f.expectedBytes = 4 ∧ f.format.byteCount? f.size = none ∧
      f.decode = .error .crashed ∧
      Nv21.pixel? f.data f.size.width.toNat f.size.height.toNat 0 0 = none ∧
      (FrameFormat.rgb24.byteCount ⟨4294967295, 4294967295⟩).toNat ≠
        3 * 4294967295 * 4294967295 := by
  refine ⟨rfl, rfl, rfl, decode_eq_crashed_iff.2 ⟨rfl, by decide, by decide⟩, rfl, by decide⟩

end Frame

end Viewfinder
