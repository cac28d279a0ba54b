import Viewfinder.Camera.Simulator

/-!
# A test bench for camera systems

A bench stands between a system and a simulator. It writes down the calls that pass through, lets
chosen calls fail or crash, and keeps every ticket until it is told to deliver the frame.
-/

namespace Viewfinder

namespace DeviceCall

def name : DeviceCall → String
  | setPreviewSize _ => "set_preview_size"
  | setDisplayRotation _ => "set_display_rotation"
  | setOutputRotation _ => "set_output_rotation"
  | setFocusMode _ => "set_focus_mode"
  | setFocusAreas _ _ => "set_focus_areas"
  | autoFocus => "auto_focus"
  | cancelAutoFocus => "cancel_auto_focus"
  | startPreview => "start_preview"
  | stopPreview => "stop_preview"
  | release => "release"

def area : Option Rect → String
  | some r => toString r
  | none => "none"

def arguments : DeviceCall → String
  | setPreviewSize size => toString size
  | setDisplayRotation degrees => toString degrees
  | setOutputRotation degrees => toString degrees
  | setFocusMode mode => toString mode
  | setFocusAreas focus metering => s!"{area focus}; {area metering}"
  | _ => ""

end DeviceCall

/-- How often a call fails, or crashes, before it goes through again; always if there is no count.
-/
structure ScriptedFault where
  call : String
  crash : Bool
  remaining : Option Nat
deriving DecidableEq, Repr

/-- A call as it was made and how it came back. -/
structure LoggedCall where
  call : String
  outcome : Outcome Unit
deriving DecidableEq, Repr

def LoggedCall.text (c : LoggedCall) : String :=
  match c.outcome with
  | .done () => s!"{c.call} ok"
  | .refused e => s!"{c.call} error: {e.message}"
  | .crashed => s!"{c.call} crash"

structure Bench where
  simulator : Simulator Ticket
  faults : List ScriptedFault := []
  log : List LoggedCall := []
  /-- Tickets with their devices, oldest first. -/
  held : List (Nat × Ticket) := []
  /-- Keep the tickets of a device that is released. -/
  leak : Bool := false
  /-- The device that the bench itself has opened. -/
  own : Option Nat := none

/-- What came of telling the bench to deliver a frame. -/
inductive Delivery where
  | none
  | notPreviewing
  | frame (ticket : Ticket) (frame : Frame)

namespace Bench

def ofCameras (cameras : List CameraSpec) : Bench := { simulator := .ofCameras cameras }

/-- Replace the fault of a call. -/
def setFault (b : Bench) (call : String) (fault : Option ScriptedFault) : Bench :=
  { b with faults := b.faults.filter (·.call ≠ call) ++ fault.toList }

/-- The way in which a call is to fail this time, if it is, and the bench with that time used up. -/
def takeFault (b : Bench) (call : String) : Option (Outcome Unit) × Bench :=
  match b.faults.find? (·.call = call) with
  | none => (none, b)
  | some f =>
    let outcome := if f.crash then .crashed else .refused (.preview s!"injected {call}")
    match f.remaining with
    | none => (some outcome, b)
    | some 0 => (none, b)
    | some (n + 1) =>
      (some outcome,
        b.setFault call (if n = 0 then none else some { f with remaining := some n }))

def write (b : Bench) (call : String) (outcome : Outcome Unit) : Bench :=
  { b with log := b.log ++ [⟨call, outcome⟩] }

def acquire (facing : Facing) (b : Bench) : Outcome Nat × Bench :=
  let call := s!"open({facing})"
  match b.takeFault "open" with
  | (some (.refused e), b) => (.refused e, b.write call (.refused e))
  | (some _, b) => (.crashed, b.write call .crashed)
  | (none, b) =>
    let (outcome, simulator) := b.simulator.acquire facing
    let b := { b with simulator := simulator }
    match outcome with
    | .done device => (.done device, b.write call (.done ()))
    | .refused e => (.refused e, b.write call (.refused e))
    | .crashed => (.crashed, b.write call .crashed)

/-- The tickets of a device that is released are dropped before anything else. -/
def dropTickets (b : Bench) (device : Nat) : Bench :=
  if b.leak then b else { b with held := b.held.filter (·.1 ≠ device) }

def call (device : Nat) (c : DeviceCall) (b : Bench) : Outcome Unit × Bench :=
  let text := s!"{c.name}({c.arguments})"
  let b := if c = .release then b.dropTickets device else b
  match b.takeFault c.name with
  | (some outcome, b) => (outcome, b.write text outcome)
  | (none, b) =>
    let (outcome, simulator) := b.simulator.call device c
    (outcome, { b with simulator := simulator }.write text outcome)

def requestFrame (device : Nat) (ticket : Ticket) (b : Bench) : Outcome Unit × Bench :=
  match b.takeFault "set_one_shot_preview_callback" with
  | (some outcome, b) => (outcome, b)
  | (none, b) => (.done (), { b with held := b.held ++ [(device, ticket)] })

instance : CameraService Bench where
  cameraCount b := CameraService.cameraCount b.simulator
  sensor? b := CameraService.sensor? b.simulator
  acquire := acquire
  capabilities b := CameraService.capabilities b.simulator
  previewSize b := CameraService.previewSize b.simulator
  call := call
  requestFrame := requestFrame
  tickets b := b.held.map (·.2)
  due _ := []
  fire _ b := (none, b)

/-- Number of a frame that comes from a device after its release. -/
def strayFrame : Nat := 999

/-- Take the oldest ticket and make the frame for it. A device that runs no preview keeps its
ticket; one that was released delivers all the same. -/
def takeDelivery (b : Bench) : Delivery × Bench :=
  match b.held with
  | [] => (.none, b)
  | (id, ticket) :: rest =>
    match b.simulator.devices[id]? with
    | none => (.none, b)
    | some d =>
      if d.released then
        (.frame ticket ⟨strayFrame, d.preview, .nv21, Frame.testPattern d.preview 0⟩,
          { b with held := rest })
      else if !d.previewing then (.notPreviewing, b)
      else
        let frame := Simulator.frame b.simulator.faults b.simulator.frames d.preview
        (.frame ticket frame,
          { b with
            held := rest
            simulator := { b.simulator with frames := b.simulator.frames + 1 } })

/-- Open a camera for the bench itself. -/
def hold (b : Bench) (facing : Facing) : Outcome Nat × Bench :=
  let (outcome, simulator) := b.simulator.acquire facing
  let b := { b with simulator := simulator }
  match outcome with
  | .done device => (outcome, { b with own := some device })
  | _ => (outcome, b)

/-- Release the camera that the bench holds. -/
def unhold (b : Bench) : Option (Outcome Unit) × Bench :=
  match b.own with
  | none => (none, b)
  | some device =>
    let (outcome, simulator) := b.simulator.call device .release
    (some outcome, { b with simulator := simulator, own := none })

end Bench

end Viewfinder
