import Viewfinder.Geometry.Size
import Viewfinder.Geometry.Rect
import Viewfinder.Numeric.Binary

/-!
# The visible part of a frame

A viewport shows the largest centred part of the preview that has its aspect ratio. For a frame
turned by a quarter the part is computed on the sensor's axes and given on the turned ones.
-/

namespace Viewfinder

/-- Factor from the viewport's lengths to the preview's: the width is filled if the height then
fits, else the height. -/
def fittingScale (width height visibleWidth visibleHeight : Single) : Single :=
  let scale := width / visibleWidth
  if height < visibleHeight * scale then height / visibleHeight else scale

/-- The part of a `preview` frame, turned by `rotation`, that was visible in a viewport. An empty
preview or viewport gives the whole frame. -/
def visiblePart (preview : Size) (visible : Rect) (rotation : UInt32) : Checked Rect :=
  if rotation % 180 = 0 then part visible else (part visible.transposed).map Rect.transposed
where
  part (visible : Rect) : Checked Rect := do
    let empty ← visible.isEmpty
    if empty || preview.isEmpty then
      return .ofSides preview.width.toInt32 preview.height.toInt32
    let width ← visible.width
    let height ← visible.height
    return fitted (Binary.ofInt width.toInt) (Binary.ofInt height.toInt)
  /-- The centred part for a viewport of these sides. -/
  fitted (visibleWidth visibleHeight : Single) : Rect :=
    let scale := fittingScale (Binary.ofInt preview.width.toNat)
      (Binary.ofInt preview.height.toNat) visibleWidth visibleHeight
    let halfWidth := visibleWidth * scale / 2
    let halfHeight := visibleHeight * scale / 2
    let centerX : Single := Binary.ofInt (preview.width / 2).toNat
    let centerY : Single := Binary.ofInt (preview.height / 2).toNat
    ⟨(centerX - halfWidth).toInt32, (centerY - halfHeight).toInt32,
      (centerX + halfWidth).toInt32, (centerY + halfHeight).toInt32⟩

end Viewfinder
