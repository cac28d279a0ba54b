import Viewfinder.Proofs.Commands

/-!
# What the executor publishes

A step of the executor publishes nothing, or what one of a few occasions calls for. What is proved
of the events of a run is proved by the cases of `Publishes`.
-/

namespace Viewfinder.CameraSystem

/-- What a step of the executor from one system to another publishes. -/
inductive Publishes (s t : CameraSystem (Simulator Ticket)) : List Event → Prop
  | nothing : Publishes s t []
  | change (before after : HandleState) (facing : Facing) (other : after ≠ .opened) :
    Publishes s t [.stateChanged before after facing]
  | failure (before : HandleState) (facing : Facing) (reason : FailureReason) :
    Publishes s t [.stateChanged before .closed facing, .failed facing reason]
  | installation (before : HandleState) (facing : Facing) (o : Orientation) :
    Publishes s t [.stateChanged before .opened facing, .orientationChanged o.display o.output]
  | announcement (camera : OpenCamera) (size : Size)
    (first : s.executor.announced ≠ some camera.session) (idle : t.executor.stage = .idle)
    (slot : t.slot = s.slot) (preview : t.preview = some size)
    (cause : s.executor.stage = .idle ∧ s.slot = some camera ∧ s.negotiated? camera = some size ∧
        s.queue.head? = some (.configurePreview camera.session) ∨
      ∃ routine, s.executor.stage = .native routine (.resize camera size)) :
    Publishes s t [.ready camera.sensor.facing size t.display]
  | turn (routine : Routine) (o : Orientation)
    (stage : s.executor.stage = .native routine (.turn o)) :
    Publishes s t [.orientationChanged o.display o.output]
  | focus (routine : Routine) (request : FocusRequest)
    (stage : s.executor.stage = .native routine (.focus request))
    (done : routine.result? = some (.ok ())) : Publishes s t [.focusRequested request]

variable {s t : CameraSystem (Simulator Ticket)}

theorem publishes_of_same (same : t.published = s.published) :
    ∃ added, t.published = s.published ++ added ∧ Publishes s t added :=
  ⟨[], same.trans (List.append_nil _).symm, .nothing⟩

theorem publishes_beginClose (s u : CameraSystem (Simulator Ticket)) (last : Bool) :
    ∃ added, (s.beginClose last).published = s.published ++ added ∧
      Publishes u (s.beginClose last) added := by
  unfold beginClose
  split
  · exact ⟨[], (List.append_nil _).symm, .nothing⟩
  · exact ⟨_, published_publish _ _, .change _ _ _ (by simp)⟩

theorem published_failOpen (s : CameraSystem (Simulator Ticket)) (facing : Facing) (request : Nat)
    (e : CameraError) : (s.failOpen facing request e).published =
      s.published ++ [.stateChanged s.state .closed facing, .failed facing (.ofError e)] := by
  rw [failOpen, withdraw_eq]
  refine (published_publish _ _).trans ?_
  rw [enter, published_publish, List.append_assoc]
  rfl

theorem publishes_execute {c : Command} {rest : List Command} (idle : s.executor.stage = .idle)
    (queue : s.queue = c :: rest) :
    ∃ added, ({ s with queue := rest }.execute c).published = s.published ++ added ∧
      Publishes s ({ s with queue := rest }.execute c) added := by
  cases c with
  | openCamera facing request =>
    simp only [execute]
    split
    · exact publishes_of_same rfl
    · exact ⟨_, published_publish _ _, .change _ _ _ (by simp)⟩
  | closeCamera => exact publishes_beginClose { s with queue := rest } s false
  | configurePreview session =>
    rw [execute]
    rcases configurePreview_cases { s with queue := rest } session with
      ⟨-, eq⟩ | ⟨camera, slot, rfl, ⟨-, eq⟩ | ⟨size, chosen, ⟨preview, eq⟩ | ⟨-, eq⟩⟩⟩
    all_goals rw [eq]
    · exact publishes_of_same rfl
    · exact publishes_of_same rfl
    · unfold announce
      split
      · exact publishes_of_same rfl
      · next first =>
        refine ⟨_, published_publish _ _, ?_⟩
        exact .announcement camera size first idle rfl preview
          (.inl ⟨idle, slot, chosen, by rw [queue]; rfl⟩)
    · exact publishes_of_same rfl
  | turnDevice | tiltDevice | applyFocus | barrier =>
    refine publishes_of_same ?_
    simp only [execute, refreshOrientation, applyFocus]
    repeat' (first | rfl | split)

theorem publishes_resume {routine : Routine} {next : Continuation} (works : next.works = true)
    (stage : s.executor.stage = .native routine next) :
    ∃ added, (s.resume routine next).published = s.published ++ added ∧
      Publishes s (s.resume routine next) added := by
  cases next with
  | install | abandon | forget => cases works
  | resize camera size =>
    simp only [resume, announce]
    split
    · split
      · exact publishes_of_same rfl
      · next first =>
        refine ⟨_, published_publish _ _, ?_⟩
        exact .announcement camera size first rfl rfl rfl (.inr ⟨routine, stage⟩)
    · exact publishes_of_same rfl
  | turn o => exact ⟨_, published_publish _ _, .turn routine o stage⟩
  | focus request =>
    simp only [resume]
    split
    · next done => exact ⟨_, published_publish _ _, .focus routine request stage done⟩
    · exact publishes_of_same rfl

/-- A step of the executor publishes what one of the occasions calls for. -/
theorem publishes_of_turn (turn : Turn s t) :
    ∃ added, t.published = s.published ++ added ∧ Publishes s t added := by
  cases turn with
  | take c rest idle queue => exact publishes_execute idle queue
  | finish idle queue unsent => exact publishes_beginClose s s true
  | missing facing request stage absent =>
    exact ⟨_, published_failOpen s facing request _, .failure _ _ _⟩
  | refused facing request stage present =>
    exact ⟨_, published_failOpen { s with service := s.service.failedOnce } facing request _,
      .failure _ _ _⟩
  | acquired | called => exact publishes_of_same rfl
  | installed routine facing request camera o stage steps =>
    refine ⟨_, ?_, .installation s.state facing o⟩
    rw [install, published_publish, enter, published_publish, List.append_assoc]
    rfl
  | forgotten routine facing last stage steps =>
    exact ⟨_, published_publish _ _, .change _ _ _ (by simp)⟩
  | worked routine next works stage steps => exact publishes_resume works stage

end Viewfinder.CameraSystem
