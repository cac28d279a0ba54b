import Viewfinder.Camera.Basic
import Viewfinder.Geometry.Rect
import Viewfinder.Numeric.Binary

/-!
# Tap to focus

A tap on the view becomes a focus square and a metering square in the hardware's own space, which
runs from -1000 to 1000 on both axes whatever the preview size.
-/

namespace Viewfinder

/-- Areas to focus and to meter in the hardware's space. -/
structure FocusRequest where
  focus : Rect
  metering : Rect
deriving DecidableEq, Repr, Inhabited

structure Tap where
  x : Single
  y : Single
deriving DecidableEq, Repr

/-- How large the squares around a tap are: the focus square is the longer preview edge divided by
`areaDivisor`, the metering square `meteringScale` times as long. -/
structure FocusMapper where
  areaDivisor : UInt32
  meteringScale : Single
deriving DecidableEq, Repr

namespace FocusMapper

def spaceMin : Int32 := -1000
def spaceMax : Int32 := 1000

def areaSide (m : FocusMapper) (preview : Size) : Int32 :=
  (max preview.width preview.height / max m.areaDivisor 1).toInt32

/-- A coordinate of the view, out of `extent`, carried into the space. -/
def intoSpace (coordinate : Single) (extent : UInt32) : Int32 :=
  (coordinate / Binary.ofInt extent.toNat * 2000 - 1000).toInt32

/-- The length of a square, cut to that of the space. -/
def side (area : Int32) (scale : Single) : Int32 :=
  min (scale * Binary.ofInt area.toInt).toInt32 (spaceMax - spaceMin)

/-- Where a side of the given length starts: centred if that stays in the space, else at its edge.
-/
def start (center side : Int32) : Checked Int32 := do
  let first ← checked (center.toInt - (side / 2).toInt)
  let last ← checked (spaceMax.toInt - side.toInt)
  return min (max first spaceMin) last

def square (x y area : Int32) (scale : Single) : Checked Rect := do
  let side := side area scale
  let left ← start x side
  let top ← start y side
  let right ← checked (left.toInt + side.toInt)
  let bottom ← checked (top.toInt + side.toInt)
  return ⟨left, top, right, bottom⟩

/-- The areas for a tap on a preview turned by `rotation`; a quarter turn exchanges the axes. There
are none for a camera that cannot use them, nor before the preview has a size. A tap too far outside
crashes. -/
def request? (m : FocusMapper) (tap : Tap) (preview : Size) (rotation : UInt32)
    (capabilities : Capabilities) : Checked (Option FocusRequest) :=
  if !capabilities.steerable || preview.isEmpty then some none
  else do
    let view := if rotation % 180 = 0 then preview else preview.transposed
    let x := intoSpace tap.x view.width
    let y := intoSpace tap.y view.height
    let area := m.areaSide preview
    let focus ← square x y area 1
    let metering ← square x y area m.meteringScale
    return some ⟨focus, metering⟩

end FocusMapper

end Viewfinder
