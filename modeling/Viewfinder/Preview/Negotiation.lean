import Viewfinder.Geometry.Size
import Viewfinder.Numeric.Binary

/-!
# Preview size negotiation

A camera offers preview sizes in the sensor's landscape axes and a viewport asks in portrait. The
sizes whose aspect ratio is close to the viewport's come first, and the one nearest in height is
chosen, the earliest offered of equals. Where no ratio is close the ratio is not looked at.
-/

namespace Viewfinder.Preview

def ratio (numerator denominator : UInt32) : Double :=
  Binary.ofInt numerator.toNat / Binary.ofInt denominator.toNat

/-- Whether `size` on its side has the aspect of the viewport, up to `tolerance`. -/
def fitsAspect (viewport : Size) (tolerance : Double) (size : Size) : Bool :=
  size.height != 0 &&
    decide ((ratio size.width size.height - ratio viewport.height viewport.width).abs ≤ tolerance)

/-- Distance of a size's height from a wanted one. -/
def heightGap (wanted : UInt32) (size : Size) : Nat :=
  max size.height.toNat wanted.toNat - min size.height.toNat wanted.toNat

/-- The first of the sizes with the smallest height gap. -/
def closestHeight? (wanted : UInt32) (sizes : List Size) : Option Size :=
  sizes.foldl (fun best size =>
    match best with
    | none => some size
    | some b => if heightGap wanted size < heightGap wanted b then some size else some b) none

/-- What is chosen is one of the sizes, and nothing only if there is none. -/
theorem closestHeight?_cases (wanted : UInt32) (sizes : List Size) :
    sizes = [] ∧ closestHeight? wanted sizes = none ∨
      ∃ size ∈ sizes, closestHeight? wanted sizes = some size := by
  cases sizes with
  | nil => exact .inl ⟨rfl, rfl⟩
  | cons first rest =>
    refine .inr ?_
    show ∃ size ∈ first :: rest, rest.foldl _ (some first) = some size
    induction rest generalizing first with
    | nil => exact ⟨first, by simp, rfl⟩
    | cons next rest ih =>
      rw [List.foldl_cons]
      by_cases closer : heightGap wanted next < heightGap wanted first
      · obtain ⟨size, mem, found⟩ := ih next
        exact ⟨size, by simp [List.mem_cons.1 mem], by simpa [closer] using found⟩
      · obtain ⟨size, mem, found⟩ := ih first
        refine ⟨size, ?_, by simpa [closer] using found⟩
        rcases List.mem_cons.1 mem with rfl | later
        · simp
        · simp [later]

def negotiate? (offered : List Size) (viewport : Size) (tolerance : Double) : Option Size :=
  if viewport.isEmpty then none
  else
    match closestHeight? viewport.height (offered.filter (fitsAspect viewport tolerance)) with
    | some size => some size
    | none => closestHeight? viewport.height offered

/-- A viewport gets one of the sizes that are offered, if there are any. -/
theorem negotiate?_cases (offered : List Size) {viewport : Size} (visible : viewport.isEmpty = false)
    (tolerance : Double) :
    offered = [] ∧ negotiate? offered viewport tolerance = none ∨
      ∃ size ∈ offered, negotiate? offered viewport tolerance = some size := by
  simp only [negotiate?, visible, Bool.false_eq_true, if_false]
  rcases closestHeight?_cases viewport.height (offered.filter (fitsAspect viewport tolerance)) with
    ⟨-, none⟩ | ⟨size, mem, found⟩
  · rw [none]
    exact closestHeight?_cases viewport.height offered
  · rw [found]
    exact .inr ⟨size, (List.mem_filter.1 mem).1, rfl⟩

theorem mem_of_negotiate? {offered : List Size} {viewport size : Size} {tolerance : Double}
    (chosen : negotiate? offered viewport tolerance = some size) : size ∈ offered := by
  cases visible : viewport.isEmpty with
  | true => simp [negotiate?, visible] at chosen
  | false =>
    rcases negotiate?_cases offered visible tolerance with ⟨-, none⟩ | ⟨other, mem, found⟩
    · cases none.symm.trans chosen
    · cases found.symm.trans chosen
      exact mem

end Viewfinder.Preview
