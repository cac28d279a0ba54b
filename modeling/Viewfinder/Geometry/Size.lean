/-!
# Sizes

Width and height in pixels of a frame, a preview or a viewport.
-/

namespace Viewfinder

structure Size where
  width : UInt32
  height : UInt32
deriving DecidableEq, Repr, Inhabited

namespace Size

def zero : Size := ⟨0, 0⟩

def isEmpty (s : Size) : Bool := s.width == 0 || s.height == 0

/-- The same size with its axes exchanged. -/
def transposed (s : Size) : Size := ⟨s.height, s.width⟩

instance : ToString Size := ⟨fun s => s!"{s.width}x{s.height}"⟩

@[simp] theorem isEmpty_transposed (s : Size) : s.transposed.isEmpty = s.isEmpty := by
  simp [isEmpty, transposed, Bool.or_comm]

end Size

end Viewfinder
