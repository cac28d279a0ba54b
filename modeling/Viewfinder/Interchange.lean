import Viewfinder.Camera.Basic
import Viewfinder.Frame
import Viewfinder.Geometry.Rect
import Viewfinder.Rotation
import Viewfinder.Text.JsonRecord

/-!
# Values in JSON

How sizes, rectangles and the named alternatives are exchanged: records by the names of their
fields, alternatives by their own name. Every value is read back from what is written.
-/

namespace Viewfinder

open Json

namespace Size

def toJson (s : Size) : Json :=
  object [("width", integer s.width.toNat), ("height", integer s.height.toNat)]

def ofJson? (j : Json) : Option Size := do
  match ← j.record? ["width", "height"] with
  | [some w, some h] => return ⟨UInt32.ofNat (← w.natural? 32), UInt32.ofNat (← h.natural? 32)⟩
  | _ => none

theorem natural?_toNat (n : UInt32) : (integer n.toNat).natural? 32 = some n.toNat := by
  have := n.toNat_lt
  simp [Json.natural?, Json.integer?]
  omega

theorem ofJson?_toJson (s : Size) : ofJson? s.toJson = some s := by
  simp [ofJson?, toJson, Json.record?, Json.field?, natural?_toNat]

end Size

namespace Rect

def toJson (r : Rect) : Json :=
  object [("left", integer r.left.toInt), ("top", integer r.top.toInt),
    ("right", integer r.right.toInt), ("bottom", integer r.bottom.toInt)]

def coordinate? (j : Json) : Option Int32 :=
  (j.integer? Int32.minValue.toInt Int32.maxValue.toInt).map Int32.ofInt

def ofJson? (j : Json) : Option Rect := do
  match ← j.record? ["left", "top", "right", "bottom"] with
  | [some l, some t, some r, some b] =>
    return ⟨← coordinate? l, ← coordinate? t, ← coordinate? r, ← coordinate? b⟩
  | _ => none

theorem coordinate?_toInt (n : Int32) : coordinate? (integer n.toInt) = some n := by
  have low : -2147483648 ≤ n.toInt := n.le_toInt
  simp [coordinate?, Json.integer?, low, n.toInt_le]

theorem ofJson?_toJson (r : Rect) : ofJson? r.toJson = some r := by
  simp [ofJson?, toJson, Json.record?, Json.field?, coordinate?_toInt]

end Rect

namespace Facing

def toJson (f : Facing) : Json := text f.name

def ofJson? (j : Json) : Option Facing := j.oneOf? [front, back] name

theorem ofJson?_toJson (f : Facing) : ofJson? f.toJson = some f := by cases f <;> rfl

end Facing

namespace QuarterTurn

def name (t : QuarterTurn) : String := s!"Rotate{t.degrees}"

def toJson (t : QuarterTurn) : Json := text t.name

def ofJson? (j : Json) : Option QuarterTurn := j.oneOf? [natural, quarter, half, threeQuarters] name

theorem ofJson?_toJson (t : QuarterTurn) : ofJson? t.toJson = some t := by cases t <;> rfl

end QuarterTurn

namespace FrameFormat

def name : FrameFormat → String
  | nv21 => "Nv21"
  | rgb24 => "Rgb24"

def toJson (f : FrameFormat) : Json := text f.name

def ofJson? (j : Json) : Option FrameFormat := j.oneOf? [nv21, rgb24] name

theorem ofJson?_toJson (f : FrameFormat) : ofJson? f.toJson = some f := by cases f <;> rfl

end FrameFormat

namespace FocusMode

def toJson (m : FocusMode) : Json := text m.name

def ofJson? (j : Json) : Option FocusMode :=
  j.oneOf? [auto, continuousPicture, continuousVideo, fixed] name

theorem ofJson?_toJson (m : FocusMode) : ofJson? m.toJson = some m := by cases m <;> rfl

end FocusMode

end Viewfinder
