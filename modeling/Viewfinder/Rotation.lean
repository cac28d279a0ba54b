import Viewfinder.Camera.Facing
import Viewfinder.Numeric.Checked

/-!
# Rotation of sensors and displays

A sensor is mounted at an angle to the device and the device is held at an angle to the world. The
display rotation turns the live preview upright for the coarse angle of the device, the output
rotation turns a still upright for the finer reading of the orientation sensor. Angles are degrees.
-/

namespace Viewfinder

/-- The four ways in which the display can be turned from its natural orientation. -/
inductive QuarterTurn where
  | natural
  | quarter
  | half
  | threeQuarters
deriving DecidableEq, Repr, Inhabited

namespace QuarterTurn

def degrees : QuarterTurn → UInt32
  | natural => 0
  | quarter => 90
  | half => 180
  | threeQuarters => 270

def ofDegrees? (degrees : UInt32) : Option QuarterTurn :=
  if degrees = 0 then some natural
  else if degrees = 90 then some quarter
  else if degrees = 180 then some half
  else if degrees = 270 then some threeQuarters
  else none

end QuarterTurn

/-- Rotation of the preview. A front sensor looks back at the user and is turned the other way. -/
def displayRotation (sensor : UInt32) (facing : Facing) (device : UInt32) : UInt32 :=
  match facing with
  | .front => (360 - (sensor % 360 + device % 360) % 360) % 360
  | .back => (sensor % 360 + 360 - device % 360) % 360

/-- The right angle nearest to `angle`, in `[0, 360)`; halfway goes up. -/
def nearestRightAngle (angle : UInt32) : UInt32 := (angle + 45) / 90 * 90 % 360

/-- `nearestRightAngle`, with its operations checked: an angle at the top of the words overflows. -/
def nearestRightAngle? (angle : UInt32) : Checked UInt32 := do
  let ahead ← unsigned (angle.toNat + (45 : UInt32).toNat)
  let whole ← unsigned ((ahead / 90).toNat * (90 : UInt32).toNat)
  return whole % 360

/-- Rotation of a still taken at a reading `angle` of the orientation sensor. -/
def outputRotation (sensor : UInt32) (facing : Facing) (angle : UInt32) : UInt32 :=
  displayRotation sensor facing (nearestRightAngle (angle % 360))

/-- How an open camera is turned, and the two rotations that follow. -/
structure Orientation where
  sensor : UInt32
  facing : Facing
  device : QuarterTurn
  display : UInt32
  output : UInt32
deriving DecidableEq, Repr, Inhabited

/-- Both rotations from scratch. Until the sensor has given a reading the coarse turn of the device
stands in for it. -/
def Orientation.resolve (sensor : UInt32) (facing : Facing) (device : QuarterTurn)
    (angle : Option UInt32) : Orientation where
  sensor := sensor
  facing := facing
  device := device
  display := displayRotation sensor facing device.degrees
  output := outputRotation sensor facing (angle.getD device.degrees)

end Viewfinder
