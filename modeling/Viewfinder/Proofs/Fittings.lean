import Viewfinder.Proofs.Previewing

/-!
# What devices are set to

The fitting of a device is its camera, its preview size and its two rotations. Nobody but the
executor changes a fitting, and it only that of the device that was opened last, which is the one
that is held if any is.
-/

namespace Viewfinder

structure Fitting where
  spec : CameraSpec
  preview : Size
  display : UInt32
  output : UInt32
deriving DecidableEq, Repr

def Fitting.rotations (f : Fitting) : UInt32 × UInt32 := (f.display, f.output)

def Orientation.rotations (o : Orientation) : UInt32 × UInt32 := (o.display, o.output)

namespace DeviceCall

/-- The preview size after a call to an open camera that offers some sizes. -/
def resizes (offered : List Size) (c : DeviceCall) (current : Size) : Size :=
  match c with
  | .setPreviewSize size => if offered.contains size then size else current
  | _ => current

/-- Both rotations after a call to an open camera that refuses no parameters. -/
def rotates (c : DeviceCall) (current : UInt32 × UInt32) : UInt32 × UInt32 :=
  match c with
  | .setDisplayRotation degrees => (degrees, current.2)
  | .setOutputRotation degrees => (current.1, degrees)
  | _ => current

end DeviceCall

namespace Routine

theorem configure_spares_preview (device : Nat) (capabilities : Capabilities) (o : Orientation)
    (offered : List Size) :
    Spares (DeviceCall.resizes offered) (configure device capabilities o).steps := by
  intro step mem a
  simp only [configure, List.mem_append, Option.mem_toList, Option.map_eq_some_iff,
    List.mem_cons, List.not_mem_nil, or_false] at mem
  rcases mem with ⟨mode, -, rfl⟩ | rfl | rfl | rfl <;> rfl

theorem turn_spares_preview (device : Nat) (displayChanged outputChanged : Bool) (o : Orientation)
    (offered : List Size) :
    Spares (DeviceCall.resizes offered) (turn device displayChanged outputChanged o).steps := by
  intro step mem a
  cases displayChanged <;> cases outputChanged <;> simp [turn] at mem
  · rw [mem]; rfl
  · rcases mem with rfl | rfl | rfl <;> rfl
  · rcases mem with rfl | rfl | rfl | rfl <;> rfl

/-- Focusing changes neither the preview size nor the rotations. -/
theorem focus_spares (device : Nat) (capabilities : Capabilities) (request : FocusRequest)
    (offered : List Size) :
    Spares (DeviceCall.resizes offered) (focus device capabilities request).steps ∧
      Spares DeviceCall.rotates (focus device capabilities request).steps := by
  have calls : ∀ step ∈ (focus device capabilities request).steps,
      step.call = .cancelAutoFocus ∨ step.call = .setFocusMode .auto ∨
        (∃ focus metering, step.call = .setFocusAreas focus metering) ∨
          step.call = .autoFocus := by
    intro step mem
    simp only [focus, List.mem_append, List.mem_cons, List.not_mem_nil, or_false] at mem
    rcases mem with (rfl | mem) | rfl | rfl
    · simp
    · split at mem <;> simp at mem
      rw [mem.2]; simp
    · simp
    · simp
  constructor
  all_goals
    intro step mem a
    rcases calls step mem with call | call | ⟨focus, metering, call⟩ | call <;> rw [call] <;> rfl

theorem release_spares_rotations (device : Nat) :
    Spares DeviceCall.rotates (release device).steps := by
  intro step mem a
  simp [release] at mem
  rcases mem with rfl | rfl <;> rfl

theorem resize_spares_rotations (device : Nat) (current size : Size) :
    Spares DeviceCall.rotates (resize device current size).steps := by
  intro step mem a
  simp only [resize] at mem
  split at mem <;> simp at mem
  rcases mem with rfl | rfl | rfl <;> rfl

/-- A resize leads to the size that was chosen, if it is offered. -/
theorem resize_aims (device : Nat) (current : Size) {size : Size} {offered : List Size}
    (mem : size ∈ offered) :
    Aims (DeviceCall.resizes offered) (· = size) (resize device current size).steps current := by
  by_cases same : current = size
  · simp [resize, same, Aims]
  · simp [resize, same, Aims, DeviceCall.resizes, mem]

theorem configure_aims (device : Nat) (capabilities : Capabilities) (o : Orientation)
    (before : UInt32 × UInt32) :
    Aims DeviceCall.rotates (· = o.rotations) (configure device capabilities o).steps before := by
  cases mode : capabilities.continuousMode? <;>
    simp [configure, mode, Aims, DeviceCall.rotates, DeviceCall.sure, Orientation.rotations]

/-- A turn that applies what has changed leads to both rotations. -/
theorem turn_aims (device : Nat) (o : Orientation) (display output : UInt32) :
    Aims DeviceCall.rotates (· = o.rotations)
      (turn device (display != o.display) (output != o.output) o).steps (display, output) := by
  by_cases same : display = o.display <;> by_cases same' : output = o.output <;>
    simp [turn, same, same', Aims, DeviceCall.rotates, Orientation.rotations]

/-- A routine of which no call is refused by an open camera that offers some sizes. -/
structure Accepted (r : Routine) (offered : List Size) : Prop where
  failure : r.failure = none
  crashed : r.crashed = false
  accepted : ∀ step ∈ r.steps,
    step.call.sure = true ∨ ∃ size ∈ offered, step.call = .setPreviewSize size

theorem Accepted.result {r : Routine} {offered : List Size} (h : r.Accepted offered) :
    r.result? = some (.ok ()) := by
  simp [result?, h.failure, h.crashed]

theorem resize_accepted (device : Nat) (current : Size) {size : Size} {offered : List Size}
    (mem : size ∈ offered) : (resize device current size).Accepted offered := by
  refine ⟨rfl, rfl, ?_⟩
  intro step mem'
  simp only [resize] at mem'
  split at mem' <;> simp at mem'
  rcases mem' with rfl | rfl | rfl <;> simp [DeviceCall.sure, mem]

theorem Accepted.perform {r : Routine} {step : NativeStep} {rest : List NativeStep}
    {service : Simulator Ticket} {d : SimulatedDevice Ticket} {offered : List Size}
    (h : r.Accepted offered) (holds : service.Holds (some r.device))
    (get : service.devices[r.device]? = some d)
    (offers : d.spec.capabilities.previewSizes = offered) (steps : r.steps = step :: rest) :
    (r.perform service).1.Accepted offered := by
  obtain ⟨e, get', unreleased, made, -⟩ := holds.call step.call
  obtain rfl : d = e := Option.some.inj (get.symm.trans get')
  have done : (service.call r.device step.call).1 = .done () := by
    rw [made]
    rcases h.accepted step (by simp [steps]) with sure | ⟨size, mem, call⟩
    · exact SimulatedDevice.sure_call unreleased _ sure
    · simp [call, SimulatedDevice.call, unreleased, offers, mem]
  obtain ⟨left, failure, crashed, eq, ⟨rfl, rfl, rfl⟩ | ⟨e, refused, -⟩ | ⟨went, -⟩⟩ :=
    perform_cases holds steps
  · rw [eq]
    exact ⟨h.failure, h.crashed, fun other mem => h.accepted other (by simp [steps, mem])⟩
  · simp [done] at refused
  · simp [done] at went

end Routine

/-! ## Fittings of devices -/

namespace SimulatedDevice

variable {τ : Type}

def fitting (d : SimulatedDevice τ) : Fitting := ⟨d.spec, d.preview, d.display, d.output⟩

@[simp] theorem fitting_ofSpec (spec : CameraSpec) :
    (ofSpec spec : SimulatedDevice τ).fitting = ⟨spec, spec.defaultPreview, 0, 0⟩ := rfl

theorem preview_call {d : SimulatedDevice τ} (open_ : d.released = false)
    (faults : SimulatorFaults) (c : DeviceCall) :
    (d.call faults c).2.preview = c.resizes d.spec.capabilities.previewSizes d.preview := by
  cases c <;> simp only [call, open_, DeviceCall.resizes] <;> repeat' (first | rfl | split)
  all_goals simp_all

theorem rotations_call {d : SimulatedDevice τ} (open_ : d.released = false)
    {faults : SimulatorFaults} (willing : faults.failParameters = false) (c : DeviceCall) :
    (d.call faults c).2.fitting.rotations = c.rotates d.fitting.rotations := by
  cases c <;> simp only [call, open_, willing, DeviceCall.rotates] <;>
    repeat' (first | rfl | split)

end SimulatedDevice

namespace Simulator

variable {τ : Type} {s : Simulator τ}

/-- The fitting of the device that was opened last. -/
def last? (s : Simulator τ) : Option Fitting := s.devices.getLast?.map (·.fitting)

/-- Only the device that was opened last can be open. -/
def Newest (s : Simulator τ) : Prop :=
  ∀ i d, s.devices[i]? = some d → d.released = false → i + 1 = s.devices.length

theorem last?_of_map {u : Simulator τ}
    (same : u.devices.map (·.fitting) = s.devices.map (·.fitting)) : u.last? = s.last? := by
  rw [last?, ← List.getLast?_map, same, List.getLast?_map, last?]

theorem last?_requestFrame (i : Nat) (ticket : τ) :
    (s.requestFrame i ticket).2.last? = s.last? :=
  last?_of_map (map_requestFrame (fun _ _ _ => rfl) i ticket)

theorem last?_fire (i : Nat) : (s.fire i).2.last? = s.last? :=
  last?_of_map (map_fire (fun _ _ _ => rfl) i)

@[simp] theorem last?_opened (spec : CameraSpec) :
    (s.opened spec).last? = some ⟨spec, spec.defaultPreview, 0, 0⟩ := by
  simp [last?, Simulator.opened]

/-- The device that is held is the one that was opened last. -/
theorem Holds.last? {i : Nat} (h : s.Holds (some i)) (newest : s.Newest)
    {d : SimulatedDevice τ} (get : s.devices[i]? = some d) : s.last? = some d.fitting := by
  obtain ⟨e, get', unreleased⟩ := h.device
  have length := newest i e get' unreleased
  have at_ : i = s.devices.length - 1 := by omega
  rw [Simulator.last?, List.getLast?_eq_getElem?, ← at_, get]
  rfl

/-- A call is for the device that was opened last, and changes its fitting only. -/
theorem Holds.call_last? {i : Nat} (h : s.Holds (some i)) (newest : s.Newest) (c : DeviceCall) :
    ∃ d, s.devices[i]? = some d ∧ d.released = false ∧ s.last? = some d.fitting ∧
      (s.call i c).2.last? = some (d.call s.faults c).2.fitting := by
  obtain ⟨d, get, unreleased, -, devices, -⟩ := h.call c
  refine ⟨d, get, unreleased, h.last? newest get, ?_⟩
  have length := newest i d get unreleased
  have at_ : s.devices.length - 1 = i := by omega
  have lt : i < s.devices.length := by omega
  simp [Simulator.last?, devices, List.getLast?_eq_getElem?, at_, lt]

theorem newest_ofCameras (cameras : List CameraSpec) : (ofCameras cameras : Simulator τ).Newest := by
  simp [Newest, ofCameras]

theorem Newest.setDevice (h : s.Newest) {i : Nat} {d e : SimulatedDevice τ}
    (get : s.devices[i]? = some d) (released : d.released = true → e.released = true) :
    (s.setDevice i e).Newest := by
  intro j f get' unreleased
  simp only [Simulator.setDevice, List.getElem?_set, List.length_set] at get' ⊢
  split at get'
  · next eq =>
    subst eq
    split at get'
    · cases get'
      apply h i d get
      cases open_ : d.released with
      | false => rfl
      | true => simp [released open_] at unreleased
    · cases get'
  · exact h j f get' unreleased

theorem Newest.call (h : s.Newest) (i : Nat) (c : DeviceCall) : (s.call i c).2.Newest := by
  cases get : s.devices[i]? with
  | none => simpa [Simulator.call, get] using h
  | some d =>
    have released : d.released = true → (d.call s.faults c).2.released = true := by
      intro released
      cases c <;> simp only [SimulatedDevice.call, released] <;>
        repeat' (first | exact released | split)
    have set := h.setDevice get released
    simp only [Simulator.call, get]
    split <;> exact set

theorem Newest.requestFrame (h : s.Newest) (i : Nat) (ticket : τ) :
    (s.requestFrame i ticket).2.Newest := by
  cases get : s.devices[i]? with
  | none => simpa [Simulator.requestFrame, get] using h
  | some d =>
    simp only [Simulator.requestFrame, get]
    refine h.setDevice get fun released => ?_
    simp [SimulatedDevice.requestFrame, released]

theorem Newest.fire (h : s.Newest) (i : Nat) : (s.fire i).2.Newest := by
  cases get : s.devices[i]? with
  | none => simpa [Simulator.fire, get] using h
  | some d =>
    have kept := h.setDevice (e := d.fired) get id
    intro j e get' open_
    rw [(fire_eq get).2] at get' ⊢
    exact kept j e get' open_

theorem Newest.acquire (h : s.Newest) (holds : s.Holds none) (facing : Facing) :
    (s.acquire facing).2.Newest := by
  rcases holds.acquire_cases facing with ⟨-, eq⟩ | ⟨spec, -, -, eq⟩ | ⟨spec, -, -, eq⟩
  · rw [eq]
    exact h
  · rw [eq]
    exact h
  · rw [eq]
    intro i d get unreleased
    have held := ((holds.opened spec).released i d get).1 unreleased
    simp [← Option.some.inj held, Simulator.opened]

end Simulator

end Viewfinder
