import Viewfinder.Geometry.Size
import Viewfinder.Numeric.Checked

/-!
# Rectangles

Rectangles lie on 32-bit integer axes with `right` and `bottom` exclusive. `Rect.Covers` is the set
of points that one stands for, and the operations below are read through it. The sides are checked
differences of the edges: whoever asks for those of a rectangle that is too large, or for the common
part of two that are too far from one another, crashes.
-/

namespace Viewfinder

structure Rect where
  left : Int32
  top : Int32
  right : Int32
  bottom : Int32
deriving DecidableEq, Repr, Inhabited

namespace Rect

/-- The rectangle of the given sides with its corner at the origin. -/
def ofSides (width height : Int32) : Rect := ⟨0, 0, width, height⟩

def width (r : Rect) : Checked Int32 := checked (r.right.toInt - r.left.toInt)

def height (r : Rect) : Checked Int32 := checked (r.bottom.toInt - r.top.toInt)

/-- Width and height of a rectangle that has some. -/
def size (r : Rect) : Size where
  width := .ofNat (r.right.toInt - r.left.toInt).toNat
  height := .ofNat (r.bottom.toInt - r.top.toInt).toNat

/-- Whether a side is missing. The height is asked for only if there is some width. -/
def isEmpty (r : Rect) : Checked Bool := do
  let width ← r.width
  if width ≤ 0 then return true
  let height ← r.height
  return height ≤ 0

/-- Exchange of the axes, which carries a rectangle of the view onto the sensor. -/
def transposed (r : Rect) : Rect := ⟨r.top, r.left, r.bottom, r.right⟩

/-- Whether `inner` lies within the edges of `r`. -/
def contains (r inner : Rect) : Bool :=
  decide (r.left ≤ inner.left) && decide (r.top ≤ inner.top) &&
    decide (inner.right ≤ r.right) && decide (inner.bottom ≤ r.bottom)

/-- The rectangle between the inner ones of the edges of two. -/
def common (a b : Rect) : Rect :=
  ⟨max a.left b.left, max a.top b.top, min a.right b.right, min a.bottom b.bottom⟩

/-- The common part of two rectangles, if they have one. -/
def intersect? (a b : Rect) : Checked (Option Rect) :=
  (common a b).isEmpty.map fun empty => if empty then none else some (common a b)

instance : ToString Rect := ⟨fun r => s!"Rect({r.left}, {r.top} - {r.right}, {r.bottom})"⟩

/-- The integer points of a rectangle; those on its right and bottom edges are outside. -/
def Covers (r : Rect) (x y : Int) : Prop :=
  r.left.toInt ≤ x ∧ x < r.right.toInt ∧ r.top.toInt ≤ y ∧ y < r.bottom.toInt

instance (r : Rect) (x y : Int) : Decidable (r.Covers x y) := by unfold Covers; infer_instance

/-- Edges in order, as those of every rectangle that bounds an area are. -/
def Ordered (r : Rect) : Prop := r.left ≤ r.right ∧ r.top ≤ r.bottom

instance (r : Rect) : Decidable r.Ordered := by unfold Ordered; infer_instance

theorem width_eq_some_iff {r : Rect} {n : Int32} :
    r.width = some n ↔ n.toInt = r.right.toInt - r.left.toInt :=
  checked_eq_some_iff

theorem height_eq_some_iff {r : Rect} {n : Int32} :
    r.height = some n ↔ n.toInt = r.bottom.toInt - r.top.toInt :=
  checked_eq_some_iff

/-- The sides that are looked at do not overflow. -/
structure Measured (r : Rect) : Prop where
  width : -2147483648 ≤ r.right.toInt - r.left.toInt ∧ r.right.toInt - r.left.toInt < 2147483648
  height : 0 < r.right.toInt - r.left.toInt →
    -2147483648 ≤ r.bottom.toInt - r.top.toInt ∧ r.bottom.toInt - r.top.toInt < 2147483648

theorem isEmpty_eq_some_iff {r : Rect} {empty : Bool} : r.isEmpty = some empty ↔ r.Measured ∧
    (empty = false ↔
      0 < r.right.toInt - r.left.toInt ∧ 0 < r.bottom.toInt - r.top.toInt) := by
  rcases checked_cases (r.right.toInt - r.left.toInt) with ⟨w, width, wide⟩ | ⟨width, out⟩
  · have low := w.le_toInt
    have high := w.toInt_lt
    by_cases narrow : w ≤ 0
    · have told : r.isEmpty = some true := by simp [isEmpty, Rect.width, width, narrow]
      rw [Int32.le_iff_toInt_le, Int32.toInt_zero] at narrow
      have measured : r.Measured := ⟨by omega, by omega⟩
      cases empty <;> simp [told, measured] <;> omega
    · rcases checked_cases (r.bottom.toInt - r.top.toInt) with ⟨h, height, tall⟩ | ⟨height, out⟩
      · have told : r.isEmpty = some (decide (h ≤ 0)) := by
          simp [isEmpty, Rect.width, Rect.height, width, height, narrow]
        rw [Int32.le_iff_toInt_le, Int32.toInt_zero] at narrow
        have low := h.le_toInt
        have high := h.toInt_lt
        have measured : r.Measured := ⟨by omega, by omega⟩
        cases empty <;> simp [told, measured, Int32.le_iff_toInt_le] <;> omega
      · have told : r.isEmpty = none := by
          simp [isEmpty, Rect.width, Rect.height, width, height, narrow]
        rw [Int32.le_iff_toInt_le, Int32.toInt_zero] at narrow
        simp only [told, reduceCtorEq, false_iff]
        exact fun ⟨measured, _⟩ => out (measured.height (by omega))
  · have told : r.isEmpty = none := by simp [isEmpty, Rect.width, width]
    simp only [told, reduceCtorEq, false_iff]
    exact fun ⟨measured, _⟩ => out measured.width

end Rect

end Viewfinder
