import Viewfinder.Geometry.Rect

/-!
# Images in memory

A raster is a function on its pixel coordinates, kept row by row. `Raster.pixel` reads it back and
`pixel_generate` says that nothing is lost; rotation and cropping are then changes of coordinates.
-/

namespace Viewfinder

structure Pixel where
  red : UInt8
  green : UInt8
  blue : UInt8
deriving DecidableEq, Repr, Inhabited

structure Raster where
  width : Nat
  height : Nat
  pixels : Array Pixel
  size_eq : pixels.size = width * height

namespace Raster

/-- The raster with `color x y` at each point. -/
def generate (width height : Nat) (color : Nat → Nat → Pixel) : Raster where
  width := width
  height := height
  pixels := Array.ofFn fun i : Fin (width * height) => color (i.val % width) (i.val / width)
  size_eq := Array.size_ofFn

/-- The colour at a point; black outside. -/
def pixel (r : Raster) (x y : Nat) : Pixel :=
  if x < r.width then r.pixels.getD (y * r.width + x) ⟨0, 0, 0⟩ else ⟨0, 0, 0⟩

@[simp] theorem width_generate (w h : Nat) (color : Nat → Nat → Pixel) :
    (generate w h color).width = w := rfl

@[simp] theorem height_generate (w h : Nat) (color : Nat → Nat → Pixel) :
    (generate w h color).height = h := rfl

theorem index_lt {w h x y : Nat} (hx : x < w) (hy : y < h) : y * w + x < w * h := by
  have : (y + 1) * w ≤ h * w := Nat.mul_le_mul_right w hy
  rw [Nat.add_mul, Nat.one_mul] at this
  rw [Nat.mul_comm w h]; omega

theorem pixel_generate {w h x y : Nat} (color : Nat → Nat → Pixel) (hx : x < w) (hy : y < h) :
    (generate w h color).pixel x y = color x y := by
  have hw : 0 < w := by omega
  have bound := index_lt hx hy
  have column : (y * w + x) % w = x := by
    rw [Nat.add_comm, Nat.add_mul_mod_self_right, Nat.mod_eq_of_lt hx]
  have row : (y * w + x) / w = y := by
    rw [Nat.add_comm, Nat.add_mul_div_right _ _ hw, Nat.div_eq_of_lt hx, Nat.zero_add]
  simp [pixel, generate, Array.getD, hx, bound, column, row]

/-- Clockwise rotation by a multiple of a right angle; any other angle leaves the raster alone. -/
def rotate (r : Raster) (degrees : UInt32) : Raster :=
  if degrees % 360 = 90 then generate r.height r.width fun x y => r.pixel y (r.height - 1 - x)
  else if degrees % 360 = 180 then
    generate r.width r.height fun x y => r.pixel (r.width - 1 - x) (r.height - 1 - y)
  else if degrees % 360 = 270 then
    generate r.height r.width fun x y => r.pixel (r.width - 1 - y) x
  else r

/-- The rectangle of all its points. -/
def bounds (r : Raster) : Rect := Rect.ofSides (Int32.ofNat r.width) (Int32.ofNat r.height)

/-- The part within `region`, which lies in the bounds. -/
def crop (r : Raster) (region : Rect) : Raster :=
  let left := region.left.toInt.toNat
  let top := region.top.toInt.toNat
  generate (region.right.toInt - region.left.toInt).toNat
    (region.bottom.toInt - region.top.toInt).toNat fun x y => r.pixel (left + x) (top + y)

end Raster

end Viewfinder
