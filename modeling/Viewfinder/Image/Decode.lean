import Viewfinder.Frame
import Viewfinder.Image.Raster
import Viewfinder.Image.Error

/-!
# Colours of a raw frame

NV21 holds one V and one U byte for each two by two pixels, in rows as wide as the luma rounded up
to an even number. The colours follow from the full-range BT.601 coefficients in single precision.
A frame decodes when its buffer holds all the bytes of its format; later bytes are not looked at.
The bytes are counted in 64-bit words. Where the count wraps, a buffer that is too short can pass
for long enough: reading NV21 from it crashes, and RGB is refused when the image is made.
-/

namespace Viewfinder

/-- The channel nearest to a value, at the ends of the range for a value outside. -/
def channel (value : Float32) : UInt8 := (value + 0.5).toUInt8

/-- The colour of a luma byte with the V and U bytes of its block. -/
def Pixel.ofYvu (y v u : UInt8) : Pixel :=
  let luma := y.toFloat32
  let v := v.toFloat32 - 128
  let u := u.toFloat32 - 128
  ⟨channel (luma + 1.402 * v), channel (luma - 0.344136 * u - 0.714136 * v),
    channel (luma + 1.772 * u)⟩

namespace Nv21

/-- Bytes from one row of chroma to the next. -/
def chromaStride (width : Nat) : Nat := 2 * ((width + 1) / 2)

def lumaIndex (width x y : Nat) : Nat := y * width + x

/-- Where the V byte for a point stands; the U byte follows it. -/
def chromaIndex (width height x y : Nat) : Nat :=
  width * height + y / 2 * chromaStride width + x / 2 * 2

def pixel (data : Array UInt8) (width height x y : Nat) : Pixel :=
  let chroma := chromaIndex width height x y
  Pixel.ofYvu (data.getD (lumaIndex width x y) 0) (data.getD chroma 0) (data.getD (chroma + 1) 0)

def decode (data : Array UInt8) (size : Size) : Except CaptureError Raster :=
  let needed := FrameFormat.nv21.byteCount size
  let w := size.width.toNat
  let h := size.height.toNat
  if size.isEmpty ∨ data.size < needed.toNat then
    .error (.decode s!"NV21 frame {size} needs {needed} bytes, got {data.size}")
  else if data.size < FrameFormat.nv21.pixelBytes w h then .error .crashed
  else .ok (.generate w h (pixel data w h))

end Nv21

namespace Rgb24

def pixel (data : Array UInt8) (width x y : Nat) : Pixel :=
  let i := 3 * (y * width + x)
  ⟨data.getD i 0, data.getD (i + 1) 0, data.getD (i + 2) 0⟩

def decode (data : Array UInt8) (size : Size) : Except CaptureError Raster :=
  let needed := FrameFormat.rgb24.byteCount size
  let w := size.width.toNat
  let h := size.height.toNat
  if data.size < needed.toNat then
    .error (.decode s!"RGB frame needs {needed} bytes, got {data.size}")
  else if needed.toNat < FrameFormat.rgb24.pixelBytes w h then
    .error (.decode "RGB buffer does not match frame size")
  else .ok (.generate w h (pixel data w))

end Rgb24

def Frame.decode (f : Frame) : Except CaptureError Raster :=
  match f.format with
  | .nv21 => Nv21.decode f.data f.size
  | .rgb24 => Rgb24.decode f.data f.size

end Viewfinder
