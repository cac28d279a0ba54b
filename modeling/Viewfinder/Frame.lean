import Viewfinder.Geometry.Size

/-!
# Raw preview frames

The two pixel layouts of a preview buffer, the number of bytes that one takes, and the test pattern
of the simulated cameras. `FrameFormat.byteCount` counts in 64-bit words, like the lengths that it
is compared with; `FrameFormat.pixelBytes` is the same count of the unbounded numbers.
-/

namespace Viewfinder

inductive FrameFormat where
  /-- A plane of luma, then V and U in turn for every two by two pixels. -/
  | nv21
  /-- Red, green and blue of each pixel. -/
  | rgb24
deriving DecidableEq, Repr, Inhabited

namespace FrameFormat

def byteCount (format : FrameFormat) (size : Size) : UInt64 :=
  let w := size.width.toUInt64
  let h := size.height.toUInt64
  match format with
  | nv21 => w * h + 2 * ((w + 1) / 2) * ((h + 1) / 2)
  | rgb24 => w * h * 3

def pixelBytes (format : FrameFormat) (w h : Nat) : Nat :=
  match format with
  | nv21 => w * h + 2 * ((w + 1) / 2) * ((h + 1) / 2)
  | rgb24 => 3 * w * h

/-- Half of a side, rounded up, does not wrap. -/
theorem toNat_half (side : UInt32) : ((side.toUInt64 + 1) / 2).toNat = (side.toNat + 1) / 2 := by
  have below := side.toNat_lt
  simp only [UInt64.toNat_div, UInt64.toNat_add, UInt32.toNat_toUInt64, UInt64.reduceToNat]
  omega

/-- Beyond 64 bits the count wraps. -/
theorem toNat_byteCount_eq_mod (format : FrameFormat) (size : Size) :
    (format.byteCount size).toNat =
      format.pixelBytes size.width.toNat size.height.toNat % UInt64.size := by
  cases format with
  | nv21 =>
    simp only [byteCount, pixelBytes, UInt64.toNat_add, UInt64.toNat_mul, toNat_half,
      UInt32.toNat_toUInt64, UInt64.reduceToNat, Nat.mod_mul_mod, Nat.mod_add_mod, Nat.add_mod_mod]
  | rgb24 =>
    simp only [byteCount, pixelBytes, UInt64.toNat_mul, UInt32.toNat_toUInt64, UInt64.reduceToNat,
      Nat.mod_mul_mod]
    rw [Nat.mul_comm, Nat.mul_assoc]

/-- So it never asks for more bytes than there are. -/
theorem byteCount_le (format : FrameFormat) (size : Size) :
    (format.byteCount size).toNat ≤ format.pixelBytes size.width.toNat size.height.toNat := by
  rw [toNat_byteCount_eq_mod]
  exact Nat.mod_le _ _

end FrameFormat

/-- A buffer as the camera handed it over; it may be shorter or longer than its format asks. -/
structure Frame where
  id : Nat
  size : Size
  format : FrameFormat
  data : Array UInt8
deriving DecidableEq, Repr, Inhabited

namespace Frame

def expectedBytes (f : Frame) : UInt64 := f.format.byteCount f.size

/-- A diagonal luma gradient that starts at `seed`, with neutral chroma. -/
def testPattern (size : Size) (seed : UInt8) : Array UInt8 :=
  let w := size.width.toNat
  let h := size.height.toNat
  Array.ofFn fun i : Fin (FrameFormat.nv21.pixelBytes w h) =>
    if i.val < w * h then UInt8.ofNat (i.val % w + i.val / w) + seed else 128

@[simp] theorem size_testPattern (size : Size) (seed : UInt8) :
    (testPattern size seed).size =
      FrameFormat.nv21.pixelBytes size.width.toNat size.height.toNat := by
  simp [testPattern]

end Frame

end Viewfinder
