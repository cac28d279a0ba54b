import Viewfinder.Camera.Service

/-!
# Simulated cameras

A camera service in memory. It refuses a second open while a device is unreleased, counts what it
does, and can be told to fail. A frame is due once for every ticket left while the preview runs and
for every start of the preview while a ticket waits; a frame that is due finds nothing to do when
the preview is stopped, the device released or the ticket gone.
-/

namespace Viewfinder

structure CameraSpec where
  sensor : Sensor
  capabilities : Capabilities
  defaultPreview : Size
deriving DecidableEq, Repr, Inhabited

/-- A phone's camera: landscape sizes, one focus and one metering area. -/
def CameraSpec.phone (facing : Facing) (mounting : UInt32) : CameraSpec where
  sensor := ⟨facing, mounting⟩
  capabilities :=
    { previewSizes := [⟨1920, 1080⟩, ⟨1280, 720⟩, ⟨960, 720⟩, ⟨640, 480⟩, ⟨320, 240⟩]
      maxFocusAreas := 1
      maxMeteringAreas := 1
      focusModes := [.auto, .continuousPicture, .continuousVideo] }
  defaultPreview := ⟨640, 480⟩

structure SimulatedDevice (τ : Type) where
  spec : CameraSpec
  preview : Size
  display : UInt32 := 0
  output : UInt32 := 0
  focusMode : Option FocusMode := none
  focusArea : Option Rect := none
  meteringArea : Option Rect := none
  focusRuns : UInt32 := 0
  previewing : Bool := false
  released : Bool := false
  /-- The ticket that the next frame is for. -/
  ticket : Option τ := none
  /-- Frames that are due. -/
  due : Nat := 0
deriving DecidableEq, Repr

structure SimulatorFaults where
  /-- How many of the next opens fail. -/
  failingOpens : Nat := 0
  failRelease : Bool := false
  failParameters : Bool := false
  /-- Deliver the first third of a frame only. -/
  corruptFrames : Bool := false
deriving DecidableEq, Repr, Inhabited

/-- The service and every device it ever opened, in order; `τ` are the tickets left for frames. -/
structure Simulator (τ : Type) where
  cameras : List CameraSpec
  faults : SimulatorFaults := {}
  devices : List (SimulatedDevice τ) := []
  openNow : Nat := 0
  maxOpen : Nat := 0
  opens : Nat := 0
  releases : Nat := 0
  frames : Nat := 0
deriving DecidableEq, Repr

namespace SimulatedDevice

variable {τ : Type}

def ofSpec (spec : CameraSpec) : SimulatedDevice τ :=
  { spec := spec, preview := spec.defaultPreview }

/-- One call on a device, with the device afterwards. A released device refuses every call but
another release and the cancelling of autofocus. -/
def call (d : SimulatedDevice τ) (faults : SimulatorFaults) :
    DeviceCall → Outcome Unit × SimulatedDevice τ
  | .setPreviewSize size =>
    if d.released then (.refused .notOpen, d)
    else if d.spec.capabilities.previewSizes.contains size then
      (.done (), { d with preview := size })
    else (.refused (.parameters s!"unsupported preview size {size}"), d)
  | .setDisplayRotation degrees =>
    if d.released then (.refused .notOpen, d) else (.done (), { d with display := degrees })
  | .setOutputRotation degrees =>
    if faults.failParameters then (.refused (.parameters "simulated parameter rejection"), d)
    else if d.released then (.refused .notOpen, d)
    else (.done (), { d with output := degrees })
  | .setFocusMode mode =>
    if d.released then (.refused .notOpen, d)
    else if d.spec.capabilities.supports mode then (.done (), { d with focusMode := some mode })
    else (.refused (.parameters s!"unsupported focus mode {mode}"), d)
  | .setFocusAreas focus metering =>
    if faults.failParameters then (.refused (.parameters "simulated parameter rejection"), d)
    else if d.released then (.refused .notOpen, d)
    else (.done (), { d with focusArea := focus, meteringArea := metering })
  | .autoFocus =>
    if d.released then (.refused .notOpen, d)
    -- the count overflows
    else if d.focusRuns + 1 = 0 then (.crashed, d)
    else (.done (), { d with focusRuns := d.focusRuns + 1 })
  | .cancelAutoFocus => (.done (), d)
  | .startPreview =>
    if d.released then (.refused .notOpen, d)
    else
      (.done (), { d with previewing := true, due := if d.ticket.isSome then d.due + 1 else d.due })
  | .stopPreview =>
    if d.released then (.refused .notOpen, d) else (.done (), { d with previewing := false })
  | .release =>
    if d.released then (.done (), d)
    else
      (if faults.failRelease then .refused (.release "simulated release failure") else .done (),
        { d with released := true, previewing := false, ticket := none })

/-- Leave a ticket for the next frame; one that waits already is dropped. -/
def requestFrame (d : SimulatedDevice τ) (ticket : τ) : Outcome Unit × SimulatedDevice τ :=
  if d.released then (.refused .notOpen, d)
  else
    (.done (),
      { d with ticket := some ticket, due := if d.previewing then d.due + 1 else d.due })

end SimulatedDevice

namespace Simulator

variable {τ : Type}

def ofCameras (cameras : List CameraSpec) : Simulator τ := { cameras := cameras }

def singleBack : List CameraSpec := [.phone .back 90]

def dual : List CameraSpec := [.phone .back 90, .phone .front 270]

def camera? (s : Simulator τ) (facing : Facing) : Option CameraSpec :=
  s.cameras.find? (·.sensor.facing = facing)

/-- Open the camera of that facing. Of the reasons to refuse, a missing camera comes first, then an
injected failure, which is used up, then a device that is still open. -/
def acquire (facing : Facing) (s : Simulator τ) : Outcome Nat × Simulator τ :=
  match s.camera? facing with
  | none => (.refused (.noSuchCamera facing), s)
  | some spec =>
    if 0 < s.faults.failingOpens then
      (.refused (.openFailed facing "simulated hardware failure"),
        { s with faults := { s.faults with failingOpens := s.faults.failingOpens - 1 } })
    else if 0 < s.openNow then (.refused .inUse, s)
    else
      (.done s.devices.length,
        { s with
          openNow := s.openNow + 1
          maxOpen := max s.maxOpen (s.openNow + 1)
          opens := s.opens + 1
          devices := s.devices ++ [.ofSpec spec] })

def setDevice (s : Simulator τ) (id : Nat) (d : SimulatedDevice τ) : Simulator τ :=
  { s with devices := s.devices.set id d }

def call (id : Nat) (c : DeviceCall) (s : Simulator τ) : Outcome Unit × Simulator τ :=
  match s.devices[id]? with
  | none => (.refused .notOpen, s)
  | some d =>
    let (outcome, after) := d.call s.faults c
    let s' := s.setDevice id after
    if after.released && !d.released then
      (outcome, { s' with openNow := s'.openNow - 1, releases := s'.releases + 1 })
    else (outcome, s')

def requestFrame (id : Nat) (ticket : τ) (s : Simulator τ) : Outcome Unit × Simulator τ :=
  match s.devices[id]? with
  | none => (.refused .notOpen, s)
  | some d =>
    let (outcome, after) := d.requestFrame ticket
    (outcome, s.setDevice id after)

/-- The test pattern as frame number `id`, cut short when frames are to be corrupt. -/
def frame (faults : SimulatorFaults) (id : Nat) (size : Size) : Frame :=
  let data := Frame.testPattern size (UInt8.ofNat id)
  ⟨id, size, .nv21, if faults.corruptFrames then data.take (data.size / 3) else data⟩

/-- Let a frame that is due on a device arrive: the ticket that it is for, if one waits on a running
preview, with the next frame. -/
def fire (id : Nat) (s : Simulator τ) : Option (τ × Frame) × Simulator τ :=
  match s.devices[id]? with
  | none => (none, s)
  | some d =>
    let d := { d with due := d.due - 1 }
    match d.ticket with
    | none => (none, s.setDevice id d)
    | some ticket =>
      if d.released || !d.previewing then (none, s.setDevice id d)
      else
        (some (ticket, frame s.faults s.frames d.preview),
          { s.setDevice id { d with ticket := none } with frames := s.frames + 1 })

/-- Devices on which a frame is due. -/
def dueDevices (s : Simulator τ) : List Nat :=
  (List.range s.devices.length).filter fun i => s.devices[i]?.any fun d => 0 < d.due

def tickets (s : Simulator τ) : List τ := s.devices.filterMap (·.ticket)

/-- Facings of the devices opened, in order. -/
def history (s : Simulator τ) : List Facing := s.devices.map (·.spec.sensor.facing)

instance : CameraService (Simulator Ticket) where
  cameraCount s := s.cameras.length
  sensor? s facing := (s.camera? facing).map (·.sensor)
  acquire := acquire
  capabilities s id := (s.devices[id]?.map (·.spec.capabilities)).getD ⟨[], 0, 0, []⟩
  previewSize s id := (s.devices[id]?.map (·.preview)).getD .zero
  call := call
  requestFrame := requestFrame
  tickets := tickets
  due := dueDevices
  fire := fire

end Simulator

end Viewfinder
