import Viewfinder.Interchange
import Viewfinder.Settings.Key

/-!
# Settings in JSON

Settings as a record of sections, each a record of its keys. Every section and every key may be left
out and then keeps its default. Values are taken strictly.
-/

namespace Viewfinder.Settings

/-- The keys of a section; all of them are missing from a section that is. -/
def sectionKeys? (part : Section) : Option Json → Option (List (Option Json))
  | none => some (part.keys.map fun _ => none)
  | some j => j.record? (part.keys.map Key.name)

def ofJson? (j : Json) : Option Settings := do
  let d : Settings := {}
  match ← j.record? (Section.all.map Section.name) with
  | [camera, preview, focus, capture, system] =>
    match ← sectionKeys? .camera camera, ← sectionKeys? .preview preview,
      ← sectionKeys? .focus focus, ← sectionKeys? .capture capture,
      ← sectionKeys? .system system with
    | [facing, preferFront], [tolerance], [divisor, scale], [quality], [capacity] =>
      return {
        defaultFacing := ← Json.orDefault d.defaultFacing Facing.ofJson? facing
        preferFront := ← Json.orDefault d.preferFront Json.bool? preferFront
        aspectTolerance := ← Json.orDefault d.aspectTolerance (Json.binary? .double) tolerance
        areaDivisor :=
          ← Json.orDefault d.areaDivisor (fun j => (j.natural? 32).map UInt32.ofNat) divisor
        meteringScale := ← Json.orDefault d.meteringScale (Json.binary? .single) scale
        jpegQuality :=
          ← Json.orDefault d.jpegQuality (fun j => (j.natural? 8).map UInt8.ofNat) quality
        eventCapacity :=
          ← Json.orDefault d.eventCapacity (fun j => (j.natural? 64).map UInt64.ofNat) capacity }
    | _, _, _, _, _ => none
  | _ => none

end Viewfinder.Settings
