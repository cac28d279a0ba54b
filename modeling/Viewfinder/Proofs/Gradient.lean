import Viewfinder.Proofs.Holding
import Viewfinder.Proofs.Stills

/-!
# The test pattern

The luma of the pattern grows by one from point to point along both axes and wraps, and its chroma
is neutral. Its bytes are given by their places (`getD_testPattern`), and those that a pixel reads
are again a step of the gradient and twice the neutral byte (`pixel_testPattern`), of which single
precision makes just that grey (`Pixel.ofYvu_neutral`). A frame that a simulated camera hands over
whole is such a pattern, so that it decodes.
-/

namespace Viewfinder

/-! ## Grey -/

/-- What holds of 256 numbers holds of all bytes. -/
theorem forall_byte {p : UInt8 → Prop} (all : ∀ n < 256, p (.ofNat n)) (y : UInt8) : p y := by
  have checked := all y.toNat y.toNat_lt
  rwa [UInt8.ofNat_toNat] at checked

theorem toFloat32_add_zero (y : UInt8) : y.toFloat32 + 0 = y.toFloat32 :=
  forall_byte (p := fun y => y.toFloat32 + 0 = y.toFloat32) (by decide +kernel) y

theorem toFloat32_sub_zero (y : UInt8) : y.toFloat32 - 0 = y.toFloat32 :=
  forall_byte (p := fun y => y.toFloat32 - 0 = y.toFloat32) (by decide +kernel) y

/-- A byte is the channel nearest to itself. -/
theorem channel_toFloat32 (y : UInt8) : channel y.toFloat32 = y :=
  forall_byte (p := fun y => channel y.toFloat32 = y) (by decide +kernel) y

/-- Neutral chroma is zero whatever it is multiplied by, and leaves the luma to all three channels. -/
theorem Pixel.ofYvu_neutral (y : UInt8) : Pixel.ofYvu y 128 128 = ⟨y, y, y⟩ := by
  have neutral : (128 : UInt8).toFloat32 - 128 = 0 := by decide +kernel
  have red : (1.402 : Float32) * 0 = 0 := by decide +kernel
  have green : (0.344136 : Float32) * 0 = 0 ∧ (0.714136 : Float32) * 0 = 0 := by decide +kernel
  have blue : (1.772 : Float32) * 0 = 0 := by decide +kernel
  simp only [Pixel.ofYvu, neutral, red, green, blue, toFloat32_add_zero, toFloat32_sub_zero,
    channel_toFloat32]

/-- A grey image of the given size that grows lighter by one from point to point, from `seed` in the
corner, and begins again with black. -/
structure Raster.IsGradient (r : Raster) (size : Size) (seed : UInt8) : Prop where
  width : r.width = size.width.toNat
  height : r.height = size.height.toNat
  grey : ∀ x < r.width, ∀ y < r.height, ∃ level : UInt8,
    level.toNat = (x + y + seed.toNat) % 256 ∧ r.pixel x y = ⟨level, level, level⟩

namespace Frame

variable {f : Frame} {size : Size} {seed : UInt8} {more : Array UInt8} {i x y : Nat}

/-- More bytes behind the pattern are not read. -/
theorem getD_testPattern
    (within : i < FrameFormat.nv21.pixelBytes size.width.toNat size.height.toNat) :
    (testPattern size seed ++ more).getD i 0 =
      if i < size.width.toNat * size.height.toNat then
        .ofNat (i % size.width.toNat + i / size.width.toNat) + seed
      else 128 := by
  rw [Array.getD_eq_getD_getElem?, Array.getElem?_append_left (by simpa using within)]
  simp [testPattern, within]

theorem luma_testPattern (hx : x < size.width.toNat) (hy : y < size.height.toNat) :
    (testPattern size seed ++ more).getD (Nv21.lumaIndex size.width.toNat x y) 0 =
      .ofNat (x + y) + seed := by
  have place := Nv21.lumaIndex_lt hx hy
  rw [getD_testPattern (Nat.lt_of_lt_of_le place (Nat.le_add_right _ _)), if_pos place,
    Nv21.lumaIndex, Nat.mul_comm, Nat.mul_add_mod, Nat.mod_eq_of_lt hx,
    Nat.mul_add_div (Nat.zero_lt_of_lt hx), Nat.div_eq_of_lt hx, Nat.add_zero]

theorem chroma_testPattern (behind : size.width.toNat * size.height.toNat ≤ i)
    (within : i < FrameFormat.nv21.pixelBytes size.width.toNat size.height.toNat) :
    (testPattern size seed ++ more).getD i 0 = 128 := by
  rw [getD_testPattern within, if_neg (Nat.not_lt.2 behind)]

theorem pixel_testPattern (hx : x < size.width.toNat) (hy : y < size.height.toNat) :
    Nv21.pixel (testPattern size seed ++ more) size.width.toNat size.height.toNat x y =
      .ofYvu (.ofNat (x + y) + seed) 128 128 := by
  have last := Nv21.chromaIndex_lt hx hy
  have first : size.width.toNat * size.height.toNat ≤
      Nv21.chromaIndex size.width.toNat size.height.toNat x y := by
    rw [Nv21.chromaIndex, Nat.add_assoc]
    exact Nat.le_add_right _ _
  simp only [Nv21.pixel]
  rw [luma_testPattern hx hy, chroma_testPattern first (by omega),
    chroma_testPattern (by omega) last]

/-- A frame that begins with the pattern decodes to its gradient. -/
theorem decode_testPattern (kind : f.format = .nv21)
    (data : f.data = testPattern f.size seed ++ more) (extent : f.size.isEmpty = false) :
    ∃ image, f.decode = .ok image ∧ image.IsGradient f.size seed := by
  have readable : ¬f.Unreadable := by
    rintro (short | blank)
    · rw [data, needed_of_nv21 kind, Array.size_append, size_testPattern] at short
      omega
    · rw [blank_iff kind, extent] at blank
      cases blank
  have made := decode_eq_ok_iff.2
    ⟨readable, fun other => absurd (kind.symm.trans other) (by decide), rfl⟩
  refine ⟨_, made, rfl, rfl, fun x hx y hy => ⟨.ofNat (x + y) + seed, ?_, ?_⟩⟩
  · rw [UInt8.toNat_add, UInt8.toNat_ofNat', Nat.mod_add_mod]
  · have color : f.color x y = Nv21.pixel (testPattern f.size seed ++ more)
        f.size.width.toNat f.size.height.toNat x y := by rw [Frame.color, kind, data]
    exact (Raster.pixel_generate _ hx hy).trans
      (color.trans ((pixel_testPattern hx hy).trans (Pixel.ofYvu_neutral _)))

end Frame

/-! ## Frames of a simulated camera -/

namespace Simulator

/-- A frame of some extent that is handed over whole decodes. -/
theorem decode_frame {faults : SimulatorFaults} (whole : faults.corruptFrames = false) (id : Nat)
    {size : Size} (extent : size.isEmpty = false) :
    ∃ image, (frame faults id size).decode = .ok image ∧ image.IsGradient size (.ofNat id) := by
  have data : (frame faults id size).data = Frame.testPattern size (.ofNat id) ++ #[] := by
    simp [frame, whole]
  exact Frame.decode_testPattern (f := frame faults id size) rfl data extent

end Simulator

end Viewfinder
