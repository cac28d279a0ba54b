import Viewfinder.Image.Raster
import Viewfinder.Image.Error
import Viewfinder.Jpeg.Entropy

/-!
# Baseline JPEG files

`Raster.toJpeg` writes a raster as three interleaved components at full resolution. Blocks run from
left to right and top to bottom; beyond the right and bottom edges the nearest pixel repeats.
-/

namespace Viewfinder.Jpeg

def byteFraction (x : Float32) : Float32 := x / 255

def luma (p : Pixel) : UInt8 :=
  (byteFraction 76.245 * p.red.toFloat32 + byteFraction 149.685 * p.green.toFloat32 +
    byteFraction 29.07 * p.blue.toFloat32).toUInt8

def blueChroma (p : Pixel) : UInt8 :=
  (byteFraction (-43.0185) * p.red.toFloat32 - byteFraction 84.4815 * p.green.toFloat32 +
    byteFraction 127.5 * p.blue.toFloat32 + 128).toUInt8

def redChroma (p : Pixel) : UInt8 :=
  (byteFraction 127.5 * p.red.toFloat32 - byteFraction 106.7685 * p.green.toFloat32 -
    byteFraction 20.7315 * p.blue.toFloat32 + 128).toUInt8

structure Component where
  sample : Pixel → UInt8
  table : Array Nat
  coder : Coder

def components (quality : Nat) : List Component :=
  let lumaSteps := scaled quality lumaTable
  let chromaSteps := scaled quality chromaTable
  [⟨luma, lumaSteps, lumaCoder⟩, ⟨blueChroma, chromaSteps, chromaCoder⟩,
    ⟨redChroma, chromaSteps, chromaCoder⟩]

/-- The pixels of the block whose corner is at `(x, y)`. -/
def pixels (r : Raster) (x y : Nat) : Array Pixel :=
  Array.ofFn fun i : Fin 64 =>
    r.pixel (min (x + i.val % 8) (r.width - 1)) (min (y + i.val / 8) (r.height - 1))

/-- Quantised coefficients in zigzag order. -/
def Component.coefficients (c : Component) (pixels : Array Pixel) : List Int :=
  let block := transform (pixels.map fun p => ((c.sample p).toNat : Int))
  zigzag.toList.map fun i => quantize (c.table.getD i 1) (block.getD i 0)

/-- One block of each component; `previous` are their first coefficients in the block before. -/
def putPixels (pixels : Array Pixel) :
    List Component → List Int → BitWriter → BitWriter × List Int
  | c :: cs, previous :: rest, w =>
    let coefficients := c.coefficients pixels
    let (w, firsts) := putPixels pixels cs rest (c.coder.putBlock w previous coefficients)
    (w, coefficients.headD 0 :: firsts)
  | _, _, w => (w, [])

def scan (r : Raster) (quality : Nat) : Array UInt8 :=
  let parts := components quality
  let columns := (r.width + 7) / 8
  let (w, _) := Nat.fold ((r.height + 7) / 8 * columns)
    (fun i _ (w, previous) =>
      putPixels (pixels r (8 * (i % columns)) (8 * (i / columns))) parts previous w)
    ({}, [0, 0, 0])
  w.finish

def word (n : Nat) : List UInt8 := [UInt8.ofNat (n / 256), UInt8.ofNat n]

/-- A marker segment: its length counts the two bytes that hold it. -/
def segment (marker : UInt8) (body : List UInt8) : List UInt8 :=
  [0xff, marker] ++ word (body.length + 2) ++ body

def header (width height quality : Nat) : List UInt8 :=
  let steps (index : UInt8) (table : Array Nat) :=
    let table := scaled quality table
    segment 0xdb (index :: zigzag.toList.map fun i => UInt8.ofNat (table.getD i 1))
  [0xff, 0xd8] ++
  segment 0xe0 [0x4a, 0x46, 0x49, 0x46, 0, 1, 2, 0, 0, 1, 0, 1, 0, 0] ++
  segment 0xc0 ([8] ++ word height ++ word width ++ [3, 1, 0x11, 0, 2, 0x11, 1, 3, 0x11, 1]) ++
  steps 0 lumaTable ++ steps 1 chromaTable ++
  segment 0xc4 (0x00 :: lumaDc.bytes) ++ segment 0xc4 (0x10 :: lumaAc.bytes) ++
  segment 0xc4 (0x01 :: chromaDc.bytes) ++ segment 0xc4 (0x11 :: chromaAc.bytes) ++
  segment 0xda [3, 1, 0x00, 2, 0x11, 3, 0x11, 0, 63, 0]

end Viewfinder.Jpeg

namespace Viewfinder

/-- The raster as a file, unless a side does not fit the sixteen bits that the format has for it. -/
def Raster.toJpeg (r : Raster) (quality : UInt8) : Except CaptureError (Array UInt8) :=
  if 65535 < r.width ∨ 65535 < r.height then
    .error (.encoding "The Image's dimensions are either too small or too large")
  else
    .ok ((Jpeg.header r.width r.height quality.toNat).toArray ++ Jpeg.scan r quality.toNat ++
      #[0xff, 0xd9])

end Viewfinder
