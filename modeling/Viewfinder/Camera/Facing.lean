/-!
# The two sides of a device
-/

namespace Viewfinder

/-- The side of the device on which a camera looks out. -/
inductive Facing where
  | front
  | back
deriving DecidableEq, Repr, Inhabited

namespace Facing

def toggled : Facing → Facing
  | front => back
  | back => front

def name : Facing → String
  | front => "front"
  | back => "back"

instance : ToString Facing := ⟨name⟩

end Facing

end Viewfinder
