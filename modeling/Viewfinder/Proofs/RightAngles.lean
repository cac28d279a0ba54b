import Mathlib.Data.Nat.ModEq
import Mathlib.Logic.ExistsUnique
import Viewfinder.Camera.FocusArea
import Viewfinder.Image.Crop
import Viewfinder.Image.Raster
import Viewfinder.Proofs.Words
import Viewfinder.Rotation

/-!
# Rotations by right angles

Rotations are computed with 32-bit words that are reduced modulo 360 again and again. The checked
versions say that no step leaves the words (`displayRotation?_eq`, `outputRotation?_eq`), and the
results are told by congruences (`eq_toNat_displayRotation_iff`) and by distances on the circle
(`isNearestRightAngle_iff`). A rotation by right angles exchanges the axes of an image, of the part
that is cut out of it and of the view that is tapped on, or of none of them (`axesAgree_of_dvd`).
-/

namespace Viewfinder

variable {sensor device angle a q rotation : UInt32} {facing : Facing}

/-! ## The operations checked -/

/-- `displayRotation`, with its operations checked. -/
def displayRotation? (sensor : UInt32) (facing : Facing) (device : UInt32) : Option UInt32 :=
  match facing with
  | .front => do
    let sum ← unsigned ((sensor % 360).toNat + (device % 360).toNat)
    let rest ← unsigned ((360 : UInt32).toNat - (sum % 360).toNat)
    return rest % 360
  | .back => do
    let ahead ← unsigned ((sensor % 360).toNat + (360 : UInt32).toNat)
    let rest ← unsigned (ahead.toNat - (device % 360).toNat)
    return rest % 360

/-- `outputRotation`, with its operations checked. -/
def outputRotation? (sensor : UInt32) (facing : Facing) (angle : UInt32) : Option UInt32 := do
  let right ← nearestRightAngle? (angle % 360)
  displayRotation? sensor facing right

theorem toNat_mod_360 (a : UInt32) : (a % 360).toNat = a.toNat % 360 := UInt32.toNat_mod a 360

theorem mod_360_lt (a : UInt32) : (a % 360).toNat < 360 := by
  rw [toNat_mod_360]
  exact Nat.mod_lt _ (by decide)

theorem displayRotation?_eq (sensor : UInt32) (facing : Facing) (device : UInt32) :
    displayRotation? sensor facing device = some (displayRotation sensor facing device) := by
  have sensorLt := mod_360_lt sensor
  have deviceLt := mod_360_lt device
  have full : (360 : UInt32).toNat = 360 := rfl
  cases facing with
  | front =>
    have sum := unsigned_add (a := sensor % 360) (b := device % 360) (by omega)
    have rest := unsigned_sub (a := 360) (b := (sensor % 360 + device % 360) % 360)
      (Nat.le_of_lt (mod_360_lt _))
    simp only [displayRotation?, Option.bind_eq_bind, Option.bind_eq_some_iff, Option.pure_def,
      Option.some.injEq]
    exact ⟨_, sum, _, rest, rfl⟩
  | back =>
    have ahead := unsigned_add (a := sensor % 360) (b := 360) (by omega)
    have rest := unsigned_sub (a := sensor % 360 + 360) (b := device % 360)
      (by rw [UInt32.toNat_add]; omega)
    simp only [displayRotation?, Option.bind_eq_bind, Option.bind_eq_some_iff, Option.pure_def,
      Option.some.injEq]
    exact ⟨_, ahead, _, rest, rfl⟩

/-- Only an angle that is not reduced could be too large to be rounded. -/
theorem nearestRightAngle?_eq (reduced : a.toNat < 360) :
    nearestRightAngle? a = some (nearestRightAngle a) := by
  have half : (45 : UInt32).toNat = 45 := rfl
  have right : (90 : UInt32).toNat = 90 := rfl
  have ahead := unsigned_add (a := a) (b := 45) (by omega)
  have whole := unsigned_mul (a := (a + 45) / 90) (b := 90)
    (by rw [UInt32.toNat_div, UInt32.toNat_add, half, right]; omega)
  simp only [nearestRightAngle?, Option.bind_eq_bind, Option.bind_eq_some_iff, Option.pure_def,
    Option.some.injEq]
  exact ⟨_, ahead, _, whole, rfl⟩

theorem outputRotation?_eq (sensor : UInt32) (facing : Facing) (angle : UInt32) :
    outputRotation? sensor facing angle = some (outputRotation sensor facing angle) := by
  rw [outputRotation?, nearestRightAngle?_eq (mod_360_lt angle)]
  exact displayRotation?_eq sensor facing _

/-! ## The rotation of the preview -/

/-- Turning a picture by `r` makes up for how the sensor is mounted and the device is held. A back
camera is turned on by the device; of a front one, which looks the other way, all add up. -/
def Facing.Compensates (facing : Facing) (sensor device r : Nat) : Prop :=
  match facing with
  | .back => r + device ≡ sensor [MOD 360]
  | .front => r + sensor + device ≡ 0 [MOD 360]

theorem toNat_displayRotation_front (sensor device : UInt32) :
    (displayRotation sensor .front device).toNat =
      (360 - (sensor.toNat % 360 + device.toNat % 360) % 360) % 360 := by
  simp only [displayRotation, UInt32.toNat_mod, UInt32.toNat_sub, UInt32.toNat_add,
    UInt32.reduceToNat]
  omega

theorem toNat_displayRotation_back (sensor device : UInt32) :
    (displayRotation sensor .back device).toNat =
      (sensor.toNat % 360 + 360 - device.toNat % 360) % 360 := by
  simp only [displayRotation, UInt32.toNat_mod, UInt32.toNat_sub, UInt32.toNat_add,
    UInt32.reduceToNat]
  omega

theorem eq_toNat_displayRotation_iff {r : Nat} :
    r = (displayRotation sensor facing device).toNat ↔
      r < 360 ∧ facing.Compensates sensor.toNat device.toNat r := by
  cases facing with
  | front =>
    rw [toNat_displayRotation_front]
    unfold Facing.Compensates Nat.ModEq
    omega
  | back =>
    rw [toNat_displayRotation_back]
    unfold Facing.Compensates Nat.ModEq
    omega

theorem toNat_displayRotation_lt (sensor : UInt32) (facing : Facing) (device : UInt32) :
    (displayRotation sensor facing device).toNat < 360 :=
  (eq_toNat_displayRotation_iff.1 rfl).1

theorem dvd_toNat_displayRotation (mounted : 90 ∣ sensor.toNat) (held : 90 ∣ device.toNat) :
    90 ∣ (displayRotation sensor facing device).toNat := by
  cases facing with
  | front =>
    rw [toNat_displayRotation_front]
    omega
  | back =>
    rw [toNat_displayRotation_back]
    omega

/-! ## The rotation of a still -/

/-- How far it is from one direction on to another. -/
def angleAhead (a b : Nat) : Nat := (b + (360 - a % 360)) % 360

/-- How far apart two directions are, the shorter way around. -/
def circularDistance (a b : Nat) : Nat := min (angleAhead a b) (angleAhead b a)

/-- The right angle that is no farther than any other one; of two at the same distance, the one that
lies ahead. -/
structure IsNearestRightAngle (a q : UInt32) : Prop where
  right : 90 ∣ q.toNat
  reduced : q.toNat < 360
  near : circularDistance a.toNat q.toNat ≤ 45
  upward : circularDistance a.toNat q.toNat = 45 → angleAhead a.toNat q.toNat = 45

theorem toNat_nearestRightAngle (a : UInt32) :
    (nearestRightAngle (a % 360)).toNat = (a.toNat % 360 + 45) / 90 * 90 % 360 := by
  have sum : a.toNat % 360 + 45 < 2 ^ 32 := by omega
  have whole : (a.toNat % 360 + 45) / 90 * 90 < 2 ^ 32 := by omega
  simp only [nearestRightAngle, UInt32.toNat_mod, UInt32.toNat_mul, UInt32.toNat_div,
    UInt32.toNat_add, UInt32.reduceToNat, Nat.mod_eq_of_lt sum, Nat.mod_eq_of_lt whole]

theorem isNearestRightAngle_iff : IsNearestRightAngle a q ↔ q = nearestRightAngle (a % 360) := by
  rw [← UInt32.toNat_inj, toNat_nearestRightAngle]
  constructor
  · rintro ⟨right, reduced, near, upward⟩
    -- of two right angles within 45 degrees the reading is halfway, and `upward` takes the one ahead
    unfold circularDistance angleAhead at near upward
    omega
  · intro eq
    refine ⟨by omega, by omega, ?_, fun halfway => ?_⟩
    · unfold circularDistance angleAhead
      omega
    · unfold circularDistance angleAhead at halfway
      unfold angleAhead
      omega

theorem dvd_toNat_outputRotation (mounted : 90 ∣ sensor.toNat) :
    90 ∣ (outputRotation sensor facing angle).toNat :=
  dvd_toNat_displayRotation mounted (isNearestRightAngle_iff.2 rfl).right

/-- There are four right angles. -/
theorem mem_rightAngles (right : 90 ∣ rotation.toNat) (reduced : rotation.toNat < 360) :
    rotation ∈ [(0 : UInt32), 90, 180, 270] := by
  simp only [List.mem_cons, List.not_mem_nil, or_false, ← UInt32.toNat_inj, UInt32.reduceToNat]
  omega

/-! ## Exchanged axes -/

/-- A turn by one or by three right angles. -/
def IsQuarterTurn (rotation : UInt32) : Prop := rotation % 360 = 90 ∨ rotation % 360 = 270

instance (rotation : UInt32) : Decidable (IsQuarterTurn rotation) :=
  inferInstanceAs (Decidable (_ ∨ _))

theorem dvd_toNat_of_mod (quarters : rotation % 90 = 0) : 90 ∣ rotation.toNat := by
  rw [← UInt32.toNat_inj, UInt32.toNat_mod] at quarters
  exact Nat.dvd_of_mod_eq_zero quarters

theorem isQuarterTurn_iff (quarters : 90 ∣ rotation.toNat) :
    IsQuarterTurn rotation ↔ rotation % 180 ≠ 0 := by
  simp only [IsQuarterTurn, ne_eq, ← UInt32.toNat_inj, UInt32.toNat_mod, UInt32.reduceToNat]
  omega

/-- Only a quarter turn exchanges the sides of an image; by another angle it is left as it is. -/
theorem Raster.sides_rotate (r : Raster) (rotation : UInt32) :
    (r.rotate rotation).width = (if IsQuarterTurn rotation then r.height else r.width) ∧
      (r.rotate rotation).height = if IsQuarterTurn rotation then r.width else r.height := by
  unfold Raster.rotate IsQuarterTurn
  split
  · next quarter => simp [quarter]
  split
  · next half => simp [half]
  split
  · next threeQuarters => simp [threeQuarters]
  · next quarter _ threeQuarters => simp [quarter, threeQuarters]

/-- Wherever a rotation is looked at, the axes are found to be exchanged or kept alike: those of an
image that is turned, of the part that a viewport shows, and of the view on which a tap is found. -/
structure AxesAgree (rotation : UInt32) : Prop where
  tested : rotation % 180 ≠ 0 ↔ rotation % 360 = 90 ∨ rotation % 360 = 270
  image (r : Raster) :
    (r.rotate rotation).width = (if IsQuarterTurn rotation then r.height else r.width) ∧
      (r.rotate rotation).height = if IsQuarterTurn rotation then r.width else r.height
  part (preview : Size) (visible : Rect) : visiblePart preview visible rotation =
    if IsQuarterTurn rotation then (visiblePart preview visible.transposed 0).map Rect.transposed
    else visiblePart preview visible 0
  request (m : FocusMapper) (tap : Tap) (preview : Size) (capabilities : Capabilities) :
    m.request? tap preview rotation capabilities =
      m.request? tap (if IsQuarterTurn rotation then preview.transposed else preview) 0 capabilities

theorem FocusMapper.areaSide_transposed (m : FocusMapper) (preview : Size) :
    m.areaSide preview.transposed = m.areaSide preview := by
  have longer : max preview.height preview.width = max preview.width preview.height := by
    rw [← UInt32.toNat_inj, toNat_max, toNat_max, Nat.max_comm]
  simp only [areaSide, Size.transposed, longer]

theorem axesAgree_of_dvd (quarters : 90 ∣ rotation.toNat) : AxesAgree rotation where
  tested := (isQuarterTurn_iff quarters).symm
  image r := r.sides_rotate rotation
  part preview visible := by
    by_cases exchanged : IsQuarterTurn rotation
    · have odd := (isQuarterTurn_iff quarters).1 exchanged
      rw [if_pos exchanged, visiblePart, if_neg odd]
      rfl
    · have even := not_not.1 (mt (isQuarterTurn_iff quarters).2 exchanged)
      rw [if_neg exchanged, visiblePart, if_pos even]
      rfl
  request m tap preview capabilities := by
    by_cases exchanged : IsQuarterTurn rotation
    · have odd := (isQuarterTurn_iff quarters).1 exchanged
      simp only [FocusMapper.request?, if_pos exchanged, if_neg odd, Size.isEmpty_transposed,
        m.areaSide_transposed]
      rfl
    · have even := not_not.1 (mt (isQuarterTurn_iff quarters).2 exchanged)
      simp only [FocusMapper.request?, if_neg exchanged, if_pos even]
      rfl

theorem QuarterTurn.dvd_toNat_degrees (turn : QuarterTurn) : 90 ∣ turn.degrees.toNat := by
  cases turn <;> decide

/-- However a sensor is mounted and a device is held, the rotation of the preview is computed without
leaving 32 bits, and is the one angle below a full turn that makes up for both. That of a still is
the rotation of the preview for the right angle nearest to the reading, of which only the part below
a full turn counts. If the sensor is mounted at a right angle, both rotations of the camera are
right angles, and wherever one is looked at it is found to exchange the axes, or not to, alike. -/
theorem rotations_exact (sensor : UInt32) (facing : Facing) :
    (∀ device,
      displayRotation? sensor facing device = some (displayRotation sensor facing device) ∧
      ∀ r : Nat, r = (displayRotation sensor facing device).toNat ↔
        r < 360 ∧ facing.Compensates sensor.toNat device.toNat r) ∧
    (∀ a, outputRotation? sensor facing a = some (outputRotation sensor facing a) ∧
      (∀ b, a % 360 = b % 360 →
        outputRotation sensor facing a = outputRotation sensor facing b) ∧
      (∃! q, IsNearestRightAngle a q) ∧
      ∀ q, IsNearestRightAngle a q →
        outputRotation sensor facing a = displayRotation sensor facing q) ∧
    (90 ∣ sensor.toNat → ∀ (turn : QuarterTurn) (reading : Option UInt32),
      let o := Orientation.resolve sensor facing turn reading
      (90 ∣ o.display.toNat ∧ AxesAgree o.display) ∧ 90 ∣ o.output.toNat ∧ AxesAgree o.output) := by
  refine ⟨fun device => ⟨displayRotation?_eq sensor facing device, fun r =>
      eq_toNat_displayRotation_iff⟩,
    fun a => ⟨outputRotation?_eq sensor facing a, fun b same => ?_, ?_, fun q nearest => ?_⟩,
    fun mounted turn reading => ?_⟩
  · rw [outputRotation, outputRotation, same]
  · exact ⟨nearestRightAngle (a % 360), isNearestRightAngle_iff.2 rfl,
      fun q => isNearestRightAngle_iff.1⟩
  · rw [outputRotation, isNearestRightAngle_iff.1 nearest]
  · have display : 90 ∣ (displayRotation sensor facing turn.degrees).toNat :=
      dvd_toNat_displayRotation mounted turn.dvd_toNat_degrees
    have output : 90 ∣ (outputRotation sensor facing (reading.getD turn.degrees)).toNat :=
      dvd_toNat_outputRotation mounted
    exact ⟨⟨display, axesAgree_of_dvd display⟩, output, axesAgree_of_dvd output⟩

/-- A reading of 315 degrees, after a full turn, is as near to a right angle below it as to the full
turn, which counts. The preview of the same camera, held across, needs no rotation, and that of a
front camera mounted the other way half a turn. -/
theorem rotations_exact_halfway :
    (∀ r : Nat, r < 360 ∧ Facing.front.Compensates 270 270 r → r = 180) ∧
    outputRotation 90 .back 675 = outputRotation 90 .back 315 ∧
    outputRotation 90 .back 675 = displayRotation 90 .back 0 ∧
    (Orientation.resolve 90 .back .quarter (some 675)).display = 0 ∧
    (Orientation.resolve 90 .back .quarter (some 675)).output = 90 ∧
    AxesAgree (Orientation.resolve 90 .back .quarter (some 675)).output := by
  obtain ⟨unique, -⟩ := rotations_exact 270 .front
  obtain ⟨-, output, resolved⟩ := rotations_exact 90 .back
  obtain ⟨-, reduced, -, nearest⟩ := output 675
  obtain ⟨-, -, agree⟩ := resolved (by decide) .quarter (some 675)
  exact ⟨fun r compensates => (unique 270).2 r |>.2 compensates, reduced 315 (by decide),
    nearest 0 ⟨by decide, by decide, by decide, by decide⟩, by decide, by decide, agree⟩

end Viewfinder
