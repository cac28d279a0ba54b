/-!
# Failures on the way from a frame to a still
-/

namespace Viewfinder

inductive CaptureError where
  | decode (details : String)
  | emptyCrop (details : String)
  | encoding (details : String)
  | cancelled (details : String)
  /-- No answer of a routine: an access outside of a buffer, or an overflow, took it down. -/
  | crashed
deriving DecidableEq, Repr, Inhabited

namespace CaptureError

def message : CaptureError → String
  | decode details => s!"Raw frame decode failed: {details}"
  | emptyCrop details => s!"Crop rectangle {details} does not intersect the frame"
  | encoding details => s!"JPEG encoding failed: {details}"
  | cancelled details => s!"Capture cancelled: {details}"
  | crashed => "Processing task failed"

end CaptureError

end Viewfinder
