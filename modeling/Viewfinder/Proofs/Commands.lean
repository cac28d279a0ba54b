import Viewfinder.Proofs.Fittings
import Viewfinder.Proofs.Lifecycle

/-!
# What commands come to

The three commands for the open camera either have nothing to do for the hardware or start a routine
on that camera; what is proved of them is proved by these cases. Beside them stands what moves of
others than the executor leave alone.
-/

namespace Viewfinder

/-- The camera that the executor works for: the one that is being configured, or the one in the
slot. -/
def Stage.camera? (slot : Option OpenCamera) : Stage → Option OpenCamera
  | .native _ (.install _ _ camera _) => some camera
  | _ => slot

/-- Native calls that are still to be made. -/
def Stage.steps : Stage → List NativeStep
  | .native routine _ => routine.steps
  | _ => []

/-- The size that the preview will have when the stage is through. -/
def Stage.size? : Stage → Option Size
  | .native _ (.resize _ size) => some size
  | _ => none

namespace CameraSystem

section

variable {σ : Type}

/-- The preview size that is in effect, or will be when the executor is through. -/
def aim (s : CameraSystem σ) : Option Size := s.executor.stage.size?.or s.preview

/-- The camera that the executor works for. -/
def engaged? (s : CameraSystem σ) : Option OpenCamera := s.executor.stage.camera? s.slot

/-- The preview size for a camera in the viewport as it is. -/
def negotiated? (s : CameraSystem σ) (camera : OpenCamera) : Option Size :=
  Preview.negotiate? camera.capabilities.previewSizes s.viewport s.settings.aspectTolerance

theorem engaged?_of_idle {s : CameraSystem σ} (idle : s.executor.stage = .idle) :
    s.engaged? = s.slot := by
  rw [engaged?, idle]
  rfl

theorem engaged?_of_works {s : CameraSystem σ} {routine : Routine} {next : Continuation}
    (stage : s.executor.stage = .native routine next) (works : next.works = true) :
    s.engaged? = s.slot := by
  rw [engaged?, stage]
  cases next with
  | install | abandon | forget => cases works
  | resize | turn | focus => rfl

theorem aim_of_idle {s : CameraSystem σ} (idle : s.executor.stage = .idle) :
    s.aim = s.preview := by
  rw [aim, idle]
  rfl

variable [CameraService σ]

/-- A preview is configured for the session that is open, and resized if its size is another. -/
theorem configurePreview_cases (s : CameraSystem σ) (session : Nat) :
    s.session? ≠ some session ∧ s.configurePreview session = s ∨
    ∃ camera, s.slot = some camera ∧ camera.session = session ∧
      (s.negotiated? camera = none ∧ s.configurePreview session = s ∨
        ∃ size, s.negotiated? camera = some size ∧
          (s.preview = some size ∧ s.configurePreview session = s.announce camera size ∨
            s.preview ≠ some size ∧ s.configurePreview session =
              s.setStage (.native (.resize camera.device
                (CameraService.previewSize s.service camera.device) size)
                (.resize camera size)))) := by
  cases slot : s.slot with
  | none => exact .inl ⟨by simp [session?, slot], by simp [configurePreview, slot]⟩
  | some camera =>
    by_cases same : camera.session = session
    · refine .inr ⟨camera, rfl, same, ?_⟩
      cases chosen : s.negotiated? camera with
      | none => exact .inl ⟨rfl, by simp_all [configurePreview, negotiated?]⟩
      | some size =>
        refine .inr ⟨size, rfl, ?_⟩
        by_cases kept : s.preview = some size
        · exact .inl ⟨kept, by simp_all [configurePreview, negotiated?]⟩
        · exact .inr ⟨kept, by simp_all [configurePreview, negotiated?]⟩
    · exact .inl ⟨by simp [session?, slot, same], by simp [configurePreview, slot, same]⟩

omit [CameraService σ] in
/-- The orientation is resolved for the open camera, and both rotations are applied if one of them
has changed. -/
theorem refreshOrientation_cases (s : CameraSystem σ) :
    s.slot = none ∧ s.refreshOrientation = s ∨
    ∃ camera, s.slot = some camera ∧
      (s.orientation.map Orientation.rotations =
          some (s.resolveOrientation camera.sensor).rotations ∧
        s.refreshOrientation =
          { s with orientation := some (s.resolveOrientation camera.sensor) } ∨
        s.orientation.map Orientation.rotations ≠
            some (s.resolveOrientation camera.sensor).rotations ∧
        s.refreshOrientation =
          { s with orientation := some (s.resolveOrientation camera.sensor) }.setStage
            (.native
              (.turn camera.device
                (s.orientation.map Orientation.display !=
                  some (s.resolveOrientation camera.sensor).display)
                (s.orientation.map Orientation.output !=
                  some (s.resolveOrientation camera.sensor).output)
                (s.resolveOrientation camera.sensor))
              (.turn (s.resolveOrientation camera.sensor)))) := by
  cases slot : s.slot with
  | none => exact .inl ⟨rfl, by simp [refreshOrientation, slot]⟩
  | some camera =>
    refine .inr ⟨camera, rfl, ?_⟩
    simp only [refreshOrientation, slot]
    split
    · next same =>
      refine .inl ⟨?_, rfl⟩
      simp only [Bool.and_eq_true, Bool.not_eq_eq_eq_not, Bool.not_true, bne_eq_false_iff_eq,
        Option.map_eq_some_iff] at same
      obtain ⟨⟨o, orientation, display⟩, o', orientation', output⟩ := same
      cases orientation.symm.trans orientation'
      simp [orientation, Orientation.rotations, display, output]
    · next changed =>
      refine .inr ⟨fun same => changed ?_, rfl⟩
      obtain ⟨o, orientation, rotations⟩ := Option.map_eq_some_iff.1 same
      obtain ⟨display, output⟩ := Prod.ext_iff.1 rotations
      simp only [Orientation.rotations] at display output
      simp [orientation, display, output]

omit [CameraService σ] in
/-- A tap is taken, and the open camera focuses on it if it can, unless its areas cannot be
computed. -/
theorem applyFocus_cases (s : CameraSystem σ) :
    ∃ tap, s.applyFocus = { s with tap := tap } ∨
      ∃ camera, s.slot = some camera ∧
        (s.applyFocus = { s with tap := tap }.setStage .crashed ∨
          ∃ request, s.applyFocus = { s with tap := tap }.setStage
            (.native (.focus camera.device camera.capabilities request) (.focus request))) := by
  cases tap : s.tap with
  | none =>
    refine ⟨none, .inl ?_⟩
    simp only [applyFocus, tap]
    exact (congrArg (fun tap => { s with tap := tap }) tap)
  | some _ =>
    refine ⟨none, ?_⟩
    simp only [applyFocus, tap]
    split
    · next camera preview slot _ =>
      split
      · exact .inr ⟨camera, slot, .inl rfl⟩
      · exact .inl rfl
      · exact .inr ⟨camera, slot, .inr ⟨_, rfl⟩⟩
    · exact .inl rfl

end

/-! ## What others than the executor leave alone -/

section

variable {σ : Type}

/-- Two systems that do not differ in what users ask for. -/
structure SameDemand (s t : CameraSystem σ) : Prop where
  viewport : t.viewport = s.viewport
  requests : t.requests = s.requests
  queue : t.queue = s.queue
  preparing : t.preparing = s.preparing
  inUse : t.inUse = s.inUse

/-- The image that is published when a move ends a job. -/
def develops? (s : CameraSystem σ) : Move → Option CapturedImage
  | .task (.job id) =>
    match s.job? id with
    | some ⟨ticket, .processing shot⟩ =>
      match shot.frame.still shot.rotation shot.crop s.settings.jpegQuality with
      | .ok still => some ⟨ticket.job, still, shot.rotation⟩
      | .error _ => none
    | _ => none
  | _ => none

/-- Everything that was published, oldest first. -/
def published (s : CameraSystem σ) : List Event := s.bus.published.toList

@[simp] theorem published_publish (s : CameraSystem σ) (e : Event) :
    (s.publish e).published = s.published ++ [e] := by
  have pushed : (s.publish e).bus.published = s.bus.published.push e := s.bus.published_publish e
  simp [CameraSystem.published, pushed]

variable [CameraService σ]

theorem requestFrame_sameDemand (s : CameraSystem σ) (ticket : Ticket) :
    SameDemand s (s.requestFrame ticket) ∧ (s.requestFrame ticket).published = s.published := by
  simp only [requestFrame, endJob, removeJob, setJobStage]
  repeat' (first | exact ⟨⟨rfl, rfl, rfl, rfl, rfl⟩, rfl⟩ | split)

theorem jobStep_sameDemand (s : CameraSystem σ) (j : Job) : SameDemand s (s.jobStep j) := by
  unfold jobStep
  dsimp only
  repeat' (first
    | exact ⟨rfl, rfl, rfl, rfl, rfl⟩ | exact (s.requestFrame_sameDemand _).1 | split)

theorem send_sameDemand (s : CameraSystem σ) (device : Nat) :
    SameDemand s (s.send device) ∧ (s.send device).published = s.published := by
  unfold send
  split <;> exact ⟨⟨rfl, rfl, rfl, rfl, rfl⟩, rfl⟩

omit [CameraService σ] in
theorem arrive_sameDemand (s : CameraSystem σ) (job : Nat) :
    SameDemand s (s.arrive job) ∧ (s.arrive job).published = s.published := by
  simp only [arrive, handOver, setJobStage]
  repeat' (first | exact ⟨⟨rfl, rfl, rfl, rfl, rfl⟩, rfl⟩ | split)

omit [CameraService σ] in
theorem bridgeStep_sameDemand (s : CameraSystem σ) (b : Bridge) :
    SameDemand s (s.bridgeStep b) ∧ (s.bridgeStep b).published = s.published :=
  ⟨⟨rfl, rfl, rfl, rfl, rfl⟩, congrArg Array.toList (b.published_step s.bus)⟩

theorem published_jobStep (s : CameraSystem σ) {id : Nat} {j : Job} (found : s.job? id = some j) :
    (s.jobStep j).published =
      s.published ++ ((s.develops? (.task (.job id))).map Event.imageCaptured).toList := by
  obtain ⟨ticket, stage⟩ := j
  cases stage with
  | waiting =>
    have none : s.develops? (.task (.job id)) = none := by simp [develops?, found]
    simp only [jobStep, none, Option.map_none, Option.toList_none, List.append_nil]
    repeat' (first | rfl | split)
  | ready =>
    have none : s.develops? (.task (.job id)) = none := by simp [develops?, found]
    simp only [jobStep, none, Option.map_none, Option.toList_none, List.append_nil]
    exact (s.requestFrame_sameDemand _).2
  | requested =>
    have none : s.develops? (.task (.job id)) = none := by simp [develops?, found]
    simp only [jobStep, none, Option.map_none, Option.toList_none, List.append_nil]
    split <;> rfl
  | received shot =>
    have none : s.develops? (.task (.job id)) = none := by simp [develops?, found]
    simp only [jobStep, none, Option.map_none, Option.toList_none, List.append_nil]
    rfl
  | processing shot =>
    cases made : shot.frame.still shot.rotation shot.crop s.settings.jpegQuality with
    | ok still =>
      simp only [jobStep, develops?, found, made]
      exact published_publish _ _
    | error e =>
      simp only [jobStep, develops?, found, made]
      exact (List.append_nil _).symm

theorem published_request (s : CameraSystem σ) (r : Request) :
    (s.request r).published = s.published := by
  cases r <;>
    simp only [request, start, openRequest, pause, swap, setViewport, turnDevice, tiltDevice,
      focusOn, takePicture, setListener, clearListener, barrier, drop, submit] <;>
    repeat' (first | rfl | split)

end

section

variable {σ : Type} [CameraService σ] [FaultInjection σ] {s : CameraSystem σ} {m : Move}

theorem undisturbed_move (other : m ≠ .task .executor) : Undisturbed s (s.move m) := by
  cases m with
  | request r => exact s.request_undisturbed r
  | setFaults faults => exact ⟨rfl, rfl, rfl, rfl, rfl, rfl⟩
  | task t => exact s.step_undisturbed fun own => other (own ▸ rfl)

/-- Others than the executor publish images only, and those when a job ends. -/
theorem published_move (other : m ≠ .task .executor) :
    (s.move m).published = s.published ++ ((s.develops? m).map Event.imageCaptured).toList := by
  cases m with
  | request r => exact (s.published_request r).trans (List.append_nil _).symm
  | setFaults faults => exact (List.append_nil _).symm
  | task t =>
    cases t with
    | executor => exact absurd rfl other
    | preparation session =>
      refine Eq.trans ?_ (List.append_nil _).symm
      simp only [move, step, prepare, submit]
      split <;> rfl
    | job id =>
      cases found : s.job? id with
      | none => simp [move, step, found, develops?]
      | some j =>
        simp only [move, step, found, Option.elim]
        exact s.published_jobStep found
    | bridge feed =>
      refine Eq.trans ?_ (List.append_nil _).symm
      simp only [move, step]
      cases s.bridge? feed with
      | none => rfl
      | some b => exact (s.bridgeStep_sameDemand b).2
    | delivery device => exact (s.send_sameDemand device).2.trans (List.append_nil _).symm
    | arrival job => exact (s.arrive_sameDemand job).2.trans (List.append_nil _).symm

/-- What neither tickets nor frames nor faults change of the service, only the executor changes. -/
theorem service_kept {α : Type} {look : σ → α} (other : m ≠ .task .executor)
    (requestFrame : ∀ service device ticket,
      look (CameraService.requestFrame device ticket service).2 = look service)
    (fire : ∀ service device, look (CameraService.fire device service).2 = look service)
    (setFaults : ∀ faults, m = .setFaults faults →
      look (FaultInjection.setFaults faults s.service) = look s.service) :
    look (s.move m).service = look s.service := by
  cases m with
  | request r => rw [move, service_request]
  | setFaults faults => exact setFaults faults rfl
  | task t =>
    cases t with
    | executor => exact absurd rfl other
    | preparation session => rw [move, step, service_prepare]
    | job id =>
      simp only [move, step]
      cases s.job? id with
      | none => rfl
      | some j =>
        rcases s.service_jobStep j with same | ⟨camera, -, -, eq⟩
        · rw [Option.elim, same]
        · rw [Option.elim, eq, requestFrame]
    | bridge feed =>
      simp only [move, step]
      cases s.bridge? feed <;> rfl
    | delivery device => rw [move, step, service_send, fire]
    | arrival job => rw [move, step, service_arrive]

end

variable {s : CameraSystem (Simulator Ticket)} {held : Option Nat} {m : Move}

/-- Only the executor opens devices and sets them. -/
theorem past_move (other : m ≠ .task .executor) : (s.move m).service.past = s.service.past :=
  service_kept other (fun _ _ _ => Simulator.past_requestFrame _ _)
    (fun _ _ => Simulator.past_fire _) fun _ _ => rfl

theorem last?_move (other : m ≠ .task .executor) : (s.move m).service.last? = s.service.last? :=
  service_kept other (fun _ _ _ => Simulator.last?_requestFrame _ _)
    (fun _ _ => Simulator.last?_fire _) fun _ _ => rfl

/-- Whatever is done to the service, the device that was opened last stays the only one that can be
open. -/
theorem newest_of_touched (newest : s.service.Newest) (secured : s.Secured held)
    {service : Simulator Ticket} (touched : Touched s service) : service.Newest := by
  cases touched with
  | none => exact newest
  | acquire facing request stage =>
    obtain ⟨-, -, rfl⟩ := secured.of_opening stage
    exact newest.acquire secured.holds facing
  | call routine next step => exact newest.call routine.device step.call
  | requestFrame camera ticket => exact newest.requestFrame camera.device ticket
  | fire device => exact newest.fire device
  | setFaults faults => exact newest

/-! ## Settings -/

theorem settings_turn {t : CameraSystem (Simulator Ticket)} (turn : Turn s t) :
    t.settings = s.settings := by
  cases turn with
  | take c rest idle queue => exact (execute_sameErrands _ c).settings
  | finish idle queue unsent =>
    unfold beginClose
    split <;> rfl
  | missing facing request stage absent | refused facing request stage present =>
    rw [failOpen, withdraw_eq]
    rfl
  | worked routine next works stage steps => exact (s.resume_sameErrands routine works).settings
  | acquired | called | installed | forgotten => rfl

/-- What the settings were at the beginning they are at the end. -/
theorem settings_of_run? {t : CameraSystem (Simulator Ticket)} {moves : List Move}
    (secured : s.Secured held) (run : s.run? moves = some t) : t.settings = s.settings := by
  refine (run?_keeps (P := fun u => (∃ held, u.Secured held) ∧ u.settings = s.settings) ?_ run
    ⟨⟨held, secured⟩, rfl⟩).2
  rintro u m ⟨⟨held, secured⟩, same⟩ enabled
  refine ⟨secured.move enabled, Eq.trans ?_ same⟩
  by_cases own : m = .task .executor
  · subst own
    exact settings_turn (secured.turn enabled)
  · exact (undisturbed_move own).settings

end CameraSystem

end Viewfinder
