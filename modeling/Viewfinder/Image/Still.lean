import Viewfinder.Image.Decode
import Viewfinder.Jpeg.Encoder

/-!
# Stills

A still is a frame decoded, turned clockwise, cut to the part of a rectangle that lies within the
turned frame, and encoded.
-/

namespace Viewfinder

/-- What of a frame a still shows, before it is encoded. -/
def Frame.part (f : Frame) (rotation : UInt32) (crop : Rect) : Except CaptureError Raster :=
  match f.decode with
  | .error e => .error e
  | .ok decoded =>
    let turned := decoded.rotate rotation
    match crop.intersect? turned.bounds with
    | none => .error .crashed
    | some none => .error (.emptyCrop s!"{crop} within {turned.bounds}")
    | some (some region) => .ok (turned.crop region)

structure Still where
  bytes : Array UInt8
  size : Size
deriving DecidableEq, Repr, Inhabited

def Frame.still (f : Frame) (rotation : UInt32) (crop : Rect) (quality : UInt8) :
    Except CaptureError Still :=
  match f.part rotation crop with
  | .error e => .error e
  | .ok part =>
    match part.toJpeg quality with
    | .error e => .error e
    | .ok bytes => .ok ⟨bytes, ⟨UInt32.ofNat part.width, UInt32.ofNat part.height⟩⟩

/-- A still is that of a frame that decodes, of which the crop leaves something that can be
encoded. -/
theorem Frame.still_eq_ok {f : Frame} {rotation : UInt32} {crop : Rect} {quality : UInt8}
    {picture : Still} :
    f.still rotation crop quality = .ok picture ↔
      ∃ raster region bytes, f.decode = .ok raster ∧
        crop.intersect? (raster.rotate rotation).bounds = some (some region) ∧
        ((raster.rotate rotation).crop region).toJpeg quality = .ok bytes ∧
        picture = ⟨bytes, region.size⟩ := by
  constructor
  · intro made
    simp only [still, part] at made
    cases decoded : f.decode with
    | error e => simp [decoded] at made
    | ok raster =>
      rcases cut : crop.intersect? (raster.rotate rotation).bounds with _ | _ | region
      · simp [decoded, cut] at made
      · simp [decoded, cut] at made
      · cases encoded : ((raster.rotate rotation).crop region).toJpeg quality with
        | error e => simp [decoded, cut, encoded] at made
        | ok bytes =>
          simp only [decoded, cut, encoded, Except.ok.injEq] at made
          exact ⟨raster, region, bytes, rfl, cut, encoded, made.symm⟩
  · rintro ⟨raster, region, bytes, decoded, cut, encoded, rfl⟩
    simp only [still, part, decoded, cut, encoded]
    rfl

end Viewfinder
