import Mathlib.Data.List.Chain
import Viewfinder.Proofs.Announcement
import Viewfinder.Proofs.Dials
import Viewfinder.Proofs.Execution

/-!
# The orientation is told coherently

What the executor has heard of how the device is held, the orientation that is told, the rotations
that the open device has and those that were published agree between any two commands, whichever
sessions came before. A refusal of the hardware shows in the device alone, and is made up for by the
next session.
-/

namespace Viewfinder

/-- Both rotations that an event tells. -/
def Event.rotations? : Event → Option (UInt32 × UInt32)
  | .orientationChanged display output => some (display, output)
  | _ => none

/-- What an event means to those who follow the rotations: a session that begins, or a change. -/
def Event.mark? (e : Event) : Option (Option (UInt32 × UInt32)) :=
  if e.opens then some none else e.rotations?.map some

/-- The orientation that the device is being turned to. -/
def Stage.turning? : Stage → Option Orientation
  | .native _ (.turn o) => some o
  | _ => none

namespace SimulatedDevice

variable {τ : Type} {d : SimulatedDevice τ}

/-- The rotation of the preview is never refused. -/
theorem display_call (d : SimulatedDevice τ) (open_ : d.released = false) (faults : SimulatorFaults)
    (c : DeviceCall) :
    Dial.display.read (d.call faults c).2.fitting.rotations =
      Dial.display.turns c (Dial.display.read d.fitting.rotations) := by
  cases c <;> simp only [call, open_] <;> repeat' (first | rfl | split)

theorem output_call (d : SimulatedDevice τ) (open_ : d.released = false) {faults : SimulatorFaults}
    {c : DeviceCall}
    (willing : ∀ degrees, c = .setOutputRotation degrees → faults.failParameters = false) :
    Dial.output.read (d.call faults c).2.fitting.rotations =
      Dial.output.turns c (Dial.output.read d.fitting.rotations) := by
  cases c with
  | setOutputRotation degrees =>
    simp only [call, open_, willing degrees rfl]
    rfl
  | _ =>
    simp only [call, open_]
    repeat' (first | rfl | split)

end SimulatedDevice

namespace CameraSystem

section

variable {σ : Type} {s t : CameraSystem σ}

/-- Sessions that began and rotations that were told, oldest first. -/
def marks (s : CameraSystem σ) : List (Option (UInt32 × UInt32)) :=
  s.published.filterMap Event.mark?

theorem marks_publish (s : CameraSystem σ) (e : Event) :
    (s.publish e).marks = s.marks ++ e.mark?.toList := by
  rw [marks, published_publish, List.filterMap_append]
  cases told : e.mark? <;> simp [marks, told]

theorem marks_publish_other (s : CameraSystem σ) {e : Event} (other : e.mark? = none) :
    (s.publish e).marks = s.marks := by
  rw [marks_publish, other]
  exact List.append_nil _

/-- The orientation was told as it is, or will be once the device has been turned, and nothing is
told twice in a row. -/
structure Told (s : CameraSystem σ) : Prop where
  changing : s.marks.IsChain (· ≠ ·)
  begun : s.marks.getLast? ≠ some none
  told : s.executor.stage.turning? = none → ∀ camera, s.slot = some camera →
    s.marks.getLast? = some (s.orientation.map Orientation.rotations)
  turning : ∀ o, s.executor.stage.turning? = some o →
    s.orientation = some o ∧ s.marks.getLast? ≠ some (some o.rotations)

theorem Told.of_same (h : s.Told) (slot : t.slot = s.slot)
    (orientation : t.orientation = s.orientation)
    (turning : t.executor.stage.turning? = s.executor.stage.turning?) (marks : t.marks = s.marks) :
    t.Told := by
  refine ⟨?_, ?_, ?_, ?_⟩
  · rw [marks]
    exact h.changing
  · rw [marks]
    exact h.begun
  · rw [turning, slot, orientation, marks]
    exact h.told
  · rw [turning, orientation, marks]
    exact h.turning

/-- Without a camera nothing has to be told. -/
theorem Told.of_slot (h : s.Told) (slot : t.slot = none)
    (turning : t.executor.stage.turning? = none) (marks : t.marks = s.marks) : t.Told := by
  refine ⟨?_, ?_, ?_, ?_⟩
  · rw [marks]
    exact h.changing
  · rw [marks]
    exact h.begun
  · intro _ camera open_
    cases slot.symm.trans open_
  · intro o turns
    cases turning.symm.trans turns

theorem turning?_of_idle (idle : s.executor.stage = .idle) : s.executor.stage.turning? = none := by
  rw [idle]
  rfl

/-- Rotations that have changed are told. -/
theorem Told.publish (h : s.Told) {o : Orientation} (orientation : s.orientation = some o)
    (changed : s.marks.getLast? ≠ some (some o.rotations))
    (marks : t.marks = s.marks ++ [some o.rotations]) (same : t.orientation = s.orientation)
    (turning : t.executor.stage.turning? = none) : t.Told := by
  refine ⟨?_, ?_, ?_, ?_⟩
  · rw [marks]
    refine List.isChain_append.2 ⟨h.changing, List.isChain_singleton _, ?_⟩
    rintro last mem new ⟨⟩ rfl
    exact changed mem
  · simp [marks]
  · intro _ camera _
    rw [marks, List.getLast?_concat, same, orientation]
    rfl
  · intro o' turns
    cases turning.symm.trans turns

theorem Told.beginClose (h : s.Told) (last : Bool) : (s.beginClose last).Told := by
  refine h.of_slot (slot_beginClose s last) ?_ ?_
  · unfold CameraSystem.beginClose
    cases last <;> split <;> rfl
  · unfold CameraSystem.beginClose
    split
    · rfl
    · exact marks_publish_other _ rfl

/-- Both rotations are compared with those that were told last. -/
theorem Told.refreshOrientation (h : s.Told) (idle : s.executor.stage = .idle) :
    s.refreshOrientation.Told := by
  rcases s.refreshOrientation_cases with
    ⟨-, eq⟩ | ⟨camera, slot, ⟨same, eq⟩ | ⟨changed, eq⟩⟩
  all_goals rw [eq]
  · exact h
  · have told := h.told (turning?_of_idle idle) camera slot
    refine ⟨h.changing, h.begun, fun _ _ _ => ?_, ?_⟩
    · exact told.trans (congrArg some same)
    · intro o turns
      cases (turning?_of_idle idle).symm.trans turns
  · have told := h.told (turning?_of_idle idle) camera slot
    refine ⟨h.changing, h.begun, ?_, ?_⟩
    · rintro ⟨⟩
    · rintro o ⟨⟩
      refine ⟨rfl, ?_⟩
      show s.marks.getLast? ≠ _
      rw [told]
      exact fun eq => changed (Option.some.inj eq)

theorem Told.announce (h : s.Told) (camera : OpenCamera) (size : Size) :
    (s.announce camera size).Told := by
  unfold CameraSystem.announce
  split
  · exact h
  · exact h.of_same rfl rfl rfl (marks_publish_other _ rfl)

theorem Told.execute [CameraService σ] (h : s.Told) (idle : s.executor.stage = .idle)
    (c : Command) : (s.execute c).Told := by
  have still := turning?_of_idle idle
  cases c with
  | openCamera facing request =>
    simp only [CameraSystem.execute]
    split
    · exact h
    · next unopened =>
      have slot : s.slot = none := by simpa using unopened
      exact h.of_slot slot rfl (marks_publish_other _ rfl)
  | closeCamera => exact h.beginClose false
  | configurePreview session =>
    rw [CameraSystem.execute]
    rcases s.configurePreview_cases session with
      ⟨-, eq⟩ | ⟨camera, slot, -, ⟨-, eq⟩ | ⟨size, -, ⟨-, eq⟩ | ⟨-, eq⟩⟩⟩
    all_goals rw [eq]
    · exact h
    · exact h
    · exact h.announce camera size
    · exact h.of_same rfl rfl still.symm rfl
  | turnDevice turn =>
    exact Told.refreshOrientation (s := { s with executor := { s.executor with turn := turn } })
      (h.of_same rfl rfl rfl rfl) idle
  | tiltDevice angle =>
    exact Told.refreshOrientation
      (s := { s with executor := { s.executor with angle := some angle } })
      (h.of_same rfl rfl rfl rfl) idle
  | applyFocus =>
    rw [CameraSystem.execute]
    obtain ⟨tap, eq | ⟨camera, -, eq | ⟨request, eq⟩⟩⟩ := s.applyFocus_cases
    all_goals rw [eq]
    · exact h.of_same rfl rfl rfl rfl
    · exact h.of_same rfl rfl still.symm rfl
    · exact h.of_same rfl rfl still.symm rfl
  | barrier => exact h.of_same rfl rfl rfl rfl

/-- The rotations that a device was turned to are told. -/
theorem Told.resume (h : s.Told) {routine : Routine} {next : Continuation}
    (works : next.works = true) (stage : s.executor.stage = .native routine next) :
    (s.resume routine next).Told := by
  have returned := s.resume_returned routine works
  have idle := turning?_of_idle returned.idle
  cases next with
  | install | abandon | forget => cases works
  | resize camera size =>
    have still : s.executor.stage.turning? = none := by rw [stage]; rfl
    refine h.of_same returned.slot returned.orientation (idle.trans still.symm) ?_
    simp only [CameraSystem.resume, CameraSystem.announce]
    repeat' (first | rfl | exact marks_publish_other _ rfl | split)
  | turn o =>
    obtain ⟨orientation, changed⟩ := h.turning o (by rw [stage]; rfl)
    exact h.publish orientation changed (s.marks_publish _) returned.orientation rfl
  | focus request =>
    have still : s.executor.stage.turning? = none := by rw [stage]; rfl
    refine h.of_same returned.slot returned.orientation (idle.trans still.symm) ?_
    simp only [CameraSystem.resume]
    repeat' (first | rfl | exact marks_publish_other _ rfl | split)

end

variable {s t : CameraSystem (Simulator Ticket)} {held : Option Nat}

theorem Told.of_turn (h : s.Told) (secured : s.Secured held) (turn : Turn s t) : t.Told := by
  cases turn with
  | take c rest idle queue =>
    exact Told.execute (s := { s with queue := rest }) (h.of_same rfl rfl rfl rfl) idle c
  | finish idle queue unsent => exact h.beginClose true
  | missing facing request stage absent | refused facing request stage present =>
    obtain ⟨slot, -⟩ := secured.of_opening stage
    rw [failOpen, withdraw_eq]
    refine h.of_slot slot rfl ?_
    refine (marks_publish_other _ rfl).trans ?_
    exact marks_publish_other _ rfl
  | acquired facing request spec capabilities o stage =>
    obtain ⟨slot, -⟩ := secured.of_opening stage
    exact h.of_slot slot rfl rfl
  | called routine next step rest stage steps =>
    refine h.of_same rfl rfl ?_ rfl
    rw [stage]
    cases next <;> rfl
  | installed routine facing request camera o stage steps =>
    -- that a session begins lies between what was told in the one before and in this
    have marks : (s.install facing camera o).marks = s.marks ++ [none, some o.rotations] := by
      rw [install, marks_publish, enter, marks_publish, List.append_assoc]
      rfl
    refine ⟨?_, ?_, ?_, ?_⟩
    · rw [marks]
      refine List.isChain_append.2 ⟨h.changing, by simp, ?_⟩
      rintro last mem new ⟨⟩ rfl
      exact h.begun mem
    · simp [marks]
    · intro _ other _
      simp only [marks, List.getLast?_append, List.getLast?_cons_cons, List.getLast?_singleton]
      rfl
    · rintro o' ⟨⟩
  | forgotten routine facing last stage steps =>
    refine h.of_slot (secured.of_closing stage).1 ?_ (marks_publish_other _ rfl)
    cases last <;> rfl
  | worked routine next works stage steps => exact h.resume works stage

theorem Told.move (h : s.Told) (secured : s.Secured held) {m : Move}
    (enabled : s.enabled m = true) : (s.move m).Told := by
  by_cases own : m = .task .executor
  · subst own
    exact h.of_turn secured (secured.turn enabled)
  · have same := undisturbed_move (s := s) own
    refine h.of_same same.slot same.orientation (by rw [same.executor]) ?_
    rw [marks, published_move own, List.filterMap_append]
    cases s.develops? m <;> simp [marks, Event.mark?, Event.opens, Event.rotations?]

/-! ## Calls that are refused -/

/-- The device that refuses, at a move, to turn its frames. -/
def rejects? {σ : Type} [CameraService σ] (s : CameraSystem σ) : Move → Option Nat
  | .task .executor =>
    match s.executor.stage with
    | .native routine _ =>
      match routine.steps with
      | ⟨.setOutputRotation degrees, _⟩ :: _ =>
        match (CameraService.call routine.device (.setOutputRotation degrees) s.service).1 with
        | .refused _ => some routine.device
        | _ => none
      | _ => none
    | _ => none
  | _ => none

/-- Calls are made to the device of the camera that the executor works for. -/
theorem Secured.device_of_engaged (h : s.Secured held) {camera : OpenCamera}
    (engaged : s.engaged? = some camera) {routine : Routine} {next : Continuation}
    {step : NativeStep} {rest : List NativeStep} (stage : s.executor.stage = .native routine next)
    (steps : routine.steps = step :: rest) : routine.device = camera.device := by
  have own := h.of_native stage steps
  rw [engaged?, stage] at engaged
  cases next with
  | install facing request configured o =>
    cases engaged
    obtain ⟨-, -, -, device, -⟩ := h.of_installing stage
    exact device
  | abandon | forget | resize | turn | focus =>
    exact Option.some.inj (own.symm.trans (h.of_slot engaged).2)

theorem Secured.heeds_display (h : s.Secured held) : s.Heeds .display := by
  intro routine next step rest d stage steps get
  have unreleased := (h.holds.released routine.device d get).2 (h.of_native stage steps)
  exact d.display_call unreleased _ _

/-- A device that refuses nothing at the next step of the executor turns its frames there. -/
theorem Secured.heeds_output (h : s.Secured held) {camera : OpenCamera}
    (engaged : s.engaged? = some camera)
    (taken : s.rejects? (.task .executor) ≠ some camera.device) : s.Heeds .output := by
  intro routine next step rest d stage steps get
  have own := h.of_native stage steps
  have unreleased := (h.holds.released routine.device d get).2 own
  refine d.output_call unreleased ?_
  intro degrees call
  have holds := h.holds
  rw [own] at holds
  obtain ⟨e, get', -, outcome, -⟩ := holds.call step.call
  cases get.symm.trans get'
  rw [call] at outcome
  cases failing : s.service.faults.failParameters with
  | false => rfl
  | true =>
    obtain ⟨c, onRefusal⟩ := step
    subst call
    refine absurd ?_ taken
    rw [← h.device_of_engaged engaged stage steps]
    simp [rejects?, stage, steps, CameraService.call, outcome, SimulatedDevice.call, failing]

/-- All that a run keeps of how the device is turned and of what is told of it, with the devices
that refused to turn their frames. -/
structure Coherent (s : CameraSystem (Simulator Ticket)) (rejected : List Nat) : Prop where
  tuned : s.Tuned
  told : s.Told
  display : s.Settles .display fun _ => True
  output : s.Settles .output fun camera => camera.device ∉ rejected

theorem Coherent.move {rejected : List Nat} (h : s.Coherent rejected) {m : Move}
    (enabled : s.enabled m = true) :
    (s.move m).Coherent (rejected ++ (s.rejects? m).toList) := by
  obtain ⟨held, secured⟩ := h.tuned.sound.secured
  have trusted :
      s.Settles .output fun camera => camera.device ∉ rejected ++ (s.rejects? m).toList :=
    h.output.imp fun camera _ trusts mem => trusts (List.mem_append_left _ mem)
  refine ⟨h.tuned.move enabled, h.told.move secured enabled, ?_, ?_⟩
  · exact h.display.move h.tuned enabled fun _ _ _ _ => secured.heeds_display
  · refine trusted.move h.tuned enabled ?_
    rintro rfl camera engaged trusts
    refine secured.heeds_output engaged fun rejects => trusts ?_
    simp [rejects]

theorem coherent_of_run? {settings : Settings} {cameras : List CameraSpec} {capacity : Nat}
    {facing : Facing} {moves : List Move}
    (run : (ofCameras settings cameras capacity facing).run? moves = some t) :
    t.Coherent ((ofCameras settings cameras capacity facing).along rejects? moves) := by
  refine run?_notes rejects? (P := Coherent) (fun _ _ _ h enabled => h.move enabled) run ?_
  refine ⟨tuned_ofCameras settings cameras capacity facing, ⟨.nil, ?_, ?_, ?_⟩,
    settles_of_engaged rfl, settles_of_engaged rfl⟩
  · rintro ⟨⟩
  · rintro - camera ⟨⟩
  · rintro o ⟨⟩

/-- The rotations that were told, without the sessions. -/
theorem filterMap_rotations? (s : CameraSystem (Simulator Ticket)) :
    s.published.filterMap Event.rotations? = s.marks.filterMap id := by
  rw [marks, List.filterMap_filterMap]
  refine List.filterMap_congr fun e _ => ?_
  cases e with
  | stateChanged before after facing => cases after <;> rfl
  | _ => rfl

/-- Two rotations that were told one after the other in a session differ. -/
theorem Told.differ (h : s.Told) {earlier between later : List Event} {first second : Event}
    {r r' : UInt32 × UInt32}
    (published : s.published = earlier ++ first :: (between ++ second :: later))
    (told : first.rotations? = some r) (told' : second.rotations? = some r')
    (quiet : ∀ e ∈ between, e.rotations? = none ∧ e.opens = false) : r ≠ r' := by
  have mark {e : Event} {r : UInt32 × UInt32} (told : e.rotations? = some r) :
      e.mark? = some (some r) := by
    cases e with
    | orientationChanged display output => exact congrArg (Option.map some) told
    | _ => cases told
  have unmarked : between.filterMap Event.mark? = [] := by
    refine List.filterMap_eq_nil_iff.2 fun e mem => ?_
    simp [Event.mark?, quiet e mem]
  have marks : s.marks =
      earlier.filterMap Event.mark? ++ some r :: some r' :: later.filterMap Event.mark? := by
    simp [CameraSystem.marks, published, mark told, mark told', unmarked]
  have differ := List.isChain_iff_forall_rel_of_append_cons_cons.1 h.changing marks
  exact fun same => differ (congrArg some same)

/-- Between two commands the orientation of the open camera is the one for its sensor and for the
last turn and the last tilt that were executed, which come from the users in the order in which they
told them; the device shows its preview in it and, unless it has refused to, turns its frames so,
and these rotations are those that were published last. Nothing is published twice in a row in one
session, and a closed camera has no orientation. -/
theorem orientation_coherent {settings : Settings} {cameras : List CameraSpec} {capacity : Nat}
    {facing : Facing} {moves : List Move}
    (run : (ofCameras settings cameras capacity facing).run? moves = some t) :
    let executed := (ofCameras settings cameras capacity facing).along executes? moves
    executed.filter Command.notifies ++ t.queue.filter Command.notifies =
        moves.filterMap Move.notice? ∧
    (t.state = .closed → t.orientation = none) ∧
    (t.executor.stage = .idle → t.state = .opened →
      ∃ camera d o, t.slot = some camera ∧ t.service.devices[camera.device]? = some d ∧
        d.released = false ∧ t.orientation = some o ∧
        o = .resolve d.spec.sensor.mounting d.spec.sensor.facing
          ((executed.filterMap Command.turn?).getLast?.getD .natural)
          (executed.filterMap Command.angle?).getLast? ∧
        d.display = o.display ∧ d.previewing = true ∧
        (camera.device ∉ (ofCameras settings cameras capacity facing).along rejects? moves →
          d.output = o.output) ∧
        (t.published.filterMap Event.rotations?).getLast? = some (o.display, o.output)) ∧
    (∀ earlier between later first second r r',
      t.published = earlier ++ first :: (between ++ second :: later) →
      first.rotations? = some r → second.rotations? = some r' →
      (∀ e ∈ between, e.rotations? = none ∧ e.opens = false) → r ≠ r') := by
  intro executed
  have coherent := coherent_of_run? run
  have tuned := coherent.tuned
  obtain ⟨held, secured⟩ := tuned.sound.secured
  refine ⟨notices_of_run? run, ?_, ?_, ?_⟩
  · intro closed
    have slot : t.slot = none := by
      cases slot : t.slot with
      | none => rfl
      | some camera => cases closed.symm.trans (secured.of_slot slot).1
    exact tuned.oriented.closed slot (by simp [closed])
  · intro idle opened
    rcases secured.between (.inl idle) with ⟨-, closed, -⟩ | ⟨camera, slot, -, rfl⟩
    · cases closed.symm.trans opened
    obtain ⟨d, get, unreleased⟩ := secured.holds.device
    obtain ⟨f, fitted⟩ := tuned.sized.fitted camera ((engaged?_of_idle idle).trans slot)
    cases (secured.holds.last? tuned.sized.newest get).symm.trans fitted.last
    obtain ⟨display, orientation⟩ :=
      coherent.display.read tuned.oriented idle slot fitted.last trivial
    have resolved : t.resolveOrientation camera.sensor =
        .resolve d.spec.sensor.mounting d.spec.sensor.facing
          ((executed.filterMap Command.turn?).getLast?.getD .natural)
          (executed.filterMap Command.angle?).getLast? := by
      obtain ⟨turn, angle⟩ := held_of_run? run
      rw [resolveOrientation, turn, angle, fitted.sensor]
      exact congrArg (Orientation.resolve _ _ _) (Option.or_none)
    have runs := tuned.sound.attended.shows d (List.mem_of_getElem? get) unreleased
    rw [idle] at runs
    refine ⟨camera, d, _, slot, get, unreleased, orientation, resolved, display, runs, ?_, ?_⟩
    · intro trusts
      exact (coherent.output.read tuned.oriented idle slot fitted.last trusts).1
    · have told := coherent.told.told (turning?_of_idle idle) camera slot
      rw [orientation] at told
      obtain ⟨before, marks⟩ := List.getLast?_eq_some_iff.1 told
      rw [filterMap_rotations?, marks, List.filterMap_append, List.getLast?_append]
      rfl
  · intro earlier between later first second r r' published told told' quiet
    exact coherent.told.differ published told told' quiet

/-- The device is turned and tilted before a camera is open, and again when the camera refuses it;
then the other camera is opened. -/
def turnedAround : List Move :=
  .flatten [
    [.request (.tiltDevice (-3)), .request (.turnDevice .quarter), .request (.tiltDevice 815),
      .request (.start .back)], turns 9,
    [.setFaults { failParameters := true }, .request (.turnDevice .half),
      .request (.tiltDevice 190)], turns 8,
    [.setFaults {}, .request .swap], turns 11]

theorem orientation_coherent_turnedAround :
    ∃ t camera d o, (ofCameras {} Simulator.dual 64 .back).run? turnedAround = some t ∧
      t.slot = some camera ∧ t.service.devices[camera.device]? = some d ∧
      t.orientation = some o ∧ o = .resolve 270 .front .half (some 190) ∧
      d.display = o.display ∧ d.output = o.output ∧
      (ofCameras {} Simulator.dual 64 .back).along rejects? turnedAround = [0] ∧
      turnedAround.filterMap Move.notice? =
        [.turnDevice .quarter, .tiltDevice 95, .turnDevice .half, .tiltDevice 190] ∧
      (t.published.filterMap Event.rotations?).getLast? = some (o.display, o.output) ∧
      ∀ earlier between later first second r r',
        t.published = earlier ++ first :: (between ++ second :: later) →
        first.rotations? = some r → second.rotations? = some r' →
        (∀ e ∈ between, e.rotations? = none ∧ e.opens = false) → r ≠ r' := by
  have checked : ((ofCameras {} Simulator.dual 64 .back).run? turnedAround).any fun t =>
      t.executor.stage = .idle ∧ t.state = .opened ∧
        t.slot.map (·.device) = some 1 ∧
        t.service.devices.map (·.spec.sensor) = [⟨.back, 90⟩, ⟨.front, 270⟩] := by
    decide +kernel
  have rejected : (ofCameras {} Simulator.dual 64 .back).along rejects? turnedAround = [0] := by
    decide +kernel
  have executed : (ofCameras {} Simulator.dual 64 .back).along executes? turnedAround =
      [.turnDevice .quarter, .tiltDevice 95, .openCamera .back 1, .turnDevice .half,
        .tiltDevice 190, .closeCamera, .openCamera .front 2] := by
    decide +kernel
  obtain ⟨t, run, facts⟩ := Option.any_eq_true _ _ |>.1 checked
  obtain ⟨idle, opened, open_, sensors⟩ := of_decide_eq_true facts
  obtain ⟨-, -, shown, differ⟩ := orientation_coherent run
  obtain ⟨camera, d, o, slot, get, -, orientation, resolved, display, -, output, told⟩ :=
    shown idle opened
  have device : camera.device = 1 := by simpa [slot] using open_
  have sensor : d.spec.sensor = ⟨.front, 270⟩ := by
    have looked : (t.service.devices.map (·.spec.sensor))[camera.device]? = some ⟨.front, 270⟩ := by
      rw [sensors, device]
      rfl
    rw [List.getElem?_map, get] at looked
    exact Option.some.inj looked
  refine ⟨t, camera, d, o, run, slot, get, orientation, ?_, display, ?_, rejected,
    by decide +kernel, told, differ⟩
  · rw [resolved, sensor, executed]
    rfl
  · refine output ?_
    rw [rejected, device]
    decide

end CameraSystem

end Viewfinder
