import Viewfinder.Proofs.Announcement
import Viewfinder.Proofs.Dials
import Viewfinder.Proofs.LifecycleSteps

/-!
# Rotations of the open device

As long as the hardware refuses nothing, the device of the open camera has the two rotations that
follow from how it is held, or will have them when the calls that are left have been made
(`Turned`). `Steady` is all that such a run keeps.
-/

namespace Viewfinder

namespace Simulator

variable {τ : Type} {s : Simulator τ}

/-- Neither opens nor parameters are refused. -/
def Willing (s : Simulator τ) : Prop :=
  s.faults.failingOpens = 0 ∧ s.faults.failParameters = false

theorem faults_requestFrame (i : Nat) (ticket : τ) :
    (s.requestFrame i ticket).2.faults = s.faults := by
  unfold requestFrame
  split <;> rfl

theorem faults_fire (i : Nat) : (s.fire i).2.faults = s.faults := by
  cases get : s.devices[i]? with
  | none => simp [fire, get]
  | some d =>
    simp only [fire, get]
    repeat' (first | rfl | split)

end Simulator

/-- A move that neither lets go of the camera nor makes the hardware refuse anything. -/
def Move.calm : Move → Bool
  | .request .drop => false
  | .setFaults faults => faults.failingOpens == 0 && !faults.failParameters
  | _ => true

namespace CameraSystem

variable {s t : CameraSystem (Simulator Ticket)} {held : Option Nat}

/-- The device that was opened last is turned for the camera that the executor works for. -/
def Turned (s : CameraSystem (Simulator Ticket)) : Prop :=
  ∀ camera f, s.engaged? = some camera → s.service.last? = some f →
    Aims DeviceCall.rotates (· = (s.resolveOrientation camera.sensor).rotations)
      s.executor.stage.steps f.rotations

theorem turned_of_engaged (engaged : s.engaged? = none) : s.Turned := by
  intro camera f open_
  cases engaged.symm.trans open_

/-- Both dials are set, since all calls are taken. -/
theorem turned_iff : s.Turned ↔ ∀ dial, s.Settles dial fun _ => True :=
  ⟨fun h dial camera f open_ last _ => dial.aims (h camera f open_ last),
    fun h camera f open_ last => Dial.aims_both fun dial => h dial camera f open_ last trivial⟩

theorem Turned.of_idle (h : s.Turned) (idle : s.executor.stage = .idle)
    (still : t.executor.stage = .idle) (service : t.service = s.service) (slot : t.slot = s.slot)
    (turn : t.executor.turn = s.executor.turn) (angle : t.executor.angle = s.executor.angle) :
    t.Turned :=
  turned_iff.2 fun dial => (turned_iff.1 h dial).of_idle idle still service slot turn angle

/-- The rotations of an open device are those that are told. -/
theorem Turned.rotations (h : s.Turned) (oriented : s.Oriented)
    (through : s.executor.stage.steps = []) {camera : OpenCamera} {f : Fitting}
    (slot : s.slot = some camera) (engaged : s.engaged? = s.slot)
    (last : s.service.last? = some f) :
    f.rotations = (s.resolveOrientation camera.sensor).rotations ∧
      s.orientation.map Orientation.rotations = some f.rotations := by
  have aims := h camera f (engaged.trans slot) last
  rw [through] at aims
  refine ⟨aims, ?_⟩
  rw [oriented.opened camera slot, Option.map_some]
  exact congrArg some aims.symm

/-- No call is refused to a dial. -/
theorem Secured.heeds (h : s.Secured held) (willing : s.service.Willing) (dial : Dial) :
    s.Heeds dial := by
  intro routine next step rest d stage steps get
  have unreleased := (h.holds.released routine.device d get).2 (h.of_native stage steps)
  rw [SimulatedDevice.rotations_call unreleased willing.2, dial.read_rotates]

theorem Turned.move (h : s.Turned) (tuned : s.Tuned) (willing : s.service.Willing) {m : Move}
    (enabled : s.enabled m = true) : (s.move m).Turned := by
  obtain ⟨held, secured⟩ := tuned.sound.secured
  exact turned_iff.2 fun dial =>
    (turned_iff.1 h dial).move tuned enabled fun _ _ _ _ => secured.heeds willing dial

/-- Only a refused open changes the faults. -/
theorem faults_of_turn (willing : s.service.Willing) (secured : s.Secured held)
    (turn : Turn s t) : t.service.faults = s.service.faults := by
  cases turn with
  | take c rest idle queue => exact congrArg Simulator.faults (service_execute _ c)
  | finish idle queue unsent =>
    unfold beginClose
    split <;> rfl
  | missing facing request stage absent =>
    rw [failOpen, withdraw_eq]
    rfl
  | refused facing request stage present failing =>
    have none := willing.1
    omega
  | called routine next step rest stage steps =>
    have holds := secured.holds
    rw [secured.of_native stage steps] at holds
    obtain ⟨-, -, -, -, -, -, faults, -⟩ := holds.call step.call
    exact (congrArg Simulator.faults (service_perform steps s.service)).trans faults
  | worked routine next works stage steps =>
    exact congrArg Simulator.faults (s.resume_returned routine works).service
  | acquired | installed | forgotten => rfl

theorem faults_step (willing : s.service.Willing) (secured : s.Secured held) {task : Task}
    (ready : s.ready task = true) : (s.step task).service.faults = s.service.faults := by
  by_cases own : task = .executor
  · subst own
    exact faults_of_turn willing secured (secured.turn ready)
  · exact service_kept (m := .task task) (fun eq => own (Move.task.inj eq))
      (fun _ _ _ => Simulator.faults_requestFrame _ _) (fun _ _ => Simulator.faults_fire _)
      fun _ eq => Move.noConfusion eq

theorem willing_of_move (willing : s.service.Willing) (secured : s.Secured held) {m : Move}
    (calm : m.calm = true) (enabled : s.enabled m = true) : (s.move m).service.Willing := by
  cases m with
  | request r =>
    rw [move, service_request]
    exact willing
  | setFaults faults =>
    show faults.failingOpens = 0 ∧ faults.failParameters = false
    simpa [Move.calm] using calm
  | task t =>
    rw [move, Simulator.Willing, faults_step willing secured enabled]
    exact willing

/-- All that is kept by a run in which the hardware refuses nothing and the camera is not let
go. -/
structure Steady (cameras : List CameraSpec) (s : CameraSystem (Simulator Ticket)) : Prop where
  previewed : s.Previewed
  inUse : s.inUse = true
  cameras : s.service.cameras = cameras
  willing : s.service.Willing
  turned : s.Turned

theorem inUse_move (s : CameraSystem (Simulator Ticket)) {m : Move} (calm : m.calm = true) :
    (s.move m).inUse = s.inUse := by
  cases m with
  | request r =>
    cases r with
    | drop => cases calm
    | _ =>
      simp only [move, request, start, openRequest, pause, swap, setViewport, turnDevice,
        tiltDevice, focusOn, takePicture, setListener, clearListener, barrier, submit]
      repeat' (first | rfl | split)
  | setFaults faults => rfl
  | task t => exact s.inUse_step t

theorem Steady.move {cameras : List CameraSpec} (h : s.Steady cameras) {m : Move} (calm : m.calm = true)
    (enabled : s.enabled m = true) : (s.move m).Steady cameras := by
  obtain ⟨held, secured⟩ := h.previewed.tuned.sound.secured
  refine ⟨h.previewed.move enabled, (s.inUse_move calm).trans h.inUse, ?_,
    willing_of_move h.willing secured calm enabled,
    h.turned.move h.previewed.tuned h.willing enabled⟩
  exact (lifecycle_move secured enabled).cameras.trans h.cameras

theorem steady_ofCameras (settings : Settings) (cameras : List CameraSpec) (capacity : Nat)
    (facing : Facing) : (ofCameras settings cameras capacity facing).Steady cameras where
  previewed := previewed_ofCameras settings cameras capacity facing
  inUse := rfl
  cameras := rfl
  willing := ⟨rfl, rfl⟩
  turned := turned_of_engaged rfl

end CameraSystem

end Viewfinder
