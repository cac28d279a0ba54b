import Viewfinder.Proofs.Announcement
import Viewfinder.Proofs.Execution
import Viewfinder.Proofs.Publication

/-!
# An announcement is never stale

Commands to configure the preview can wait for several sessions at once. One that was left behind by
an earlier session comes to nothing, and what a session is announced with is what the command that
announces it found when it was begun.
-/

namespace Viewfinder.CameraSystem

/-- The command whose execution a move begins, with the viewport that it finds. -/
def starts? {σ : Type} (s : CameraSystem σ) (m : Move) : Option (Command × Size) :=
  (s.executes? m).map fun c => (c, s.viewport)

section

variable {σ : Type} {s : CameraSystem σ}

/-- A resize was begun by a command for the session of its camera, with the size for the viewport
that this command found. -/
def Resizes (s : CameraSystem σ) (started : List (Command × Size)) : Prop :=
  ∀ routine camera size, s.executor.stage = .native routine (.resize camera size) →
    ∃ viewport, started.getLast? = some (.configurePreview camera.session, viewport) ∧
      Preview.negotiate? camera.capabilities.previewSizes viewport s.settings.aspectTolerance =
        some size

theorem resizes_of_size? {started : List (Command × Size)}
    (none : s.executor.stage.size? = none) : s.Resizes started := by
  intro routine camera size stage
  rw [stage] at none
  cases none

end

variable {s t : CameraSystem (Simulator Ticket)} {held : Option Nat}
  {started : List (Command × Size)}

theorem starts?_of_take {c : Command} {rest : List Command} (idle : s.executor.stage = .idle)
    (queue : s.queue = c :: rest) : s.starts? (.task .executor) = some (c, s.viewport) := by
  simp [starts?, executes?_of_idle idle, queue]

theorem starts?_of_busy (busy : s.executor.stage ≠ .idle) (m : Move) : s.starts? m = none := by
  rw [starts?, executes?_of_busy busy]
  rfl

theorem Resizes.take {c : Command} {rest : List Command} (idle : s.executor.stage = .idle) :
    ({ s with queue := rest }.execute c).Resizes (started ++ [(c, s.viewport)]) := by
  by_cases configures : ∃ session, c = .configurePreview session
  · obtain ⟨session, rfl⟩ := configures
    have still : ({ s with queue := rest } : CameraSystem _).executor.stage.size? = none := by
      show s.executor.stage.size? = none
      rw [idle]
      rfl
    rw [execute]
    rcases configurePreview_cases { s with queue := rest } session with
      ⟨-, eq⟩ | ⟨camera, slot, own, ⟨-, eq⟩ | ⟨size, chosen, ⟨-, eq⟩ | ⟨-, eq⟩⟩⟩
    all_goals rw [eq]
    · exact resizes_of_size? still
    · exact resizes_of_size? still
    · refine resizes_of_size? ?_
      unfold announce
      split <;> exact still
    · rintro routine other size' ⟨⟩
      refine ⟨s.viewport, ?_, chosen⟩
      rw [List.getLast?_concat, own]
  · exact resizes_of_size? (preview_execute { s with queue := rest } idle
      fun session eq => configures ⟨session, eq⟩).2.2

theorem Resizes.of_turn (h : s.Resizes started) (turn : Turn s t) :
    t.Resizes (started ++ (s.starts? (.task .executor)).toList) := by
  cases turn with
  | take c rest idle queue =>
    rw [starts?_of_take idle queue]
    exact .take idle
  | finish idle queue unsent =>
    refine resizes_of_size? ?_
    unfold beginClose
    split <;> rfl
  | missing facing request stage absent | refused facing request stage present =>
    rw [failOpen, withdraw_eq]
    exact resizes_of_size? rfl
  | acquired | installed => exact resizes_of_size? rfl
  | called routine next step rest stage steps =>
    rw [starts?_of_busy (by simp [stage])]
    rintro routine' camera size ⟨⟩
    rw [Option.toList_none, List.append_nil]
    exact h routine camera size stage
  | forgotten routine facing last stage steps =>
    refine resizes_of_size? ?_
    cases last <;> rfl
  | worked routine next works stage steps =>
    refine resizes_of_size? ?_
    rw [(s.resume_returned routine works).idle]
    rfl

theorem Resizes.move (h : s.Resizes started) (secured : s.Secured held) {m : Move}
    (enabled : s.enabled m = true) : (s.move m).Resizes (started ++ (s.starts? m).toList) := by
  by_cases own : m = .task .executor
  · subst own
    exact h.of_turn (secured.turn enabled)
  · have same := undisturbed_move (s := s) own
    rw [starts?, executes?_of_other own, Option.map_none, Option.toList_none, List.append_nil]
    intro routine camera size stage
    rw [same.settings]
    exact h routine camera size (same.executor ▸ stage)

/-! ## What a move publishes -/

/-- Nothing that was published from one to the other is an announcement. -/
def Unannounced (s t : CameraSystem (Simulator Ticket)) : Prop :=
  ∃ added, t.published = s.published ++ added ∧ ∀ e ∈ added, e.isReady = false

/-- The session that is open is announced, for the first time, with the size that the command found
which was begun last. -/
structure Announces (s t : CameraSystem (Simulator Ticket)) (started : List (Command × Size))
    (camera : OpenCamera) (size viewport : Size) : Prop where
  current : s.slot = some camera
  first : s.executor.announced ≠ some camera.session
  slot : t.slot = some camera
  idle : t.executor.stage = .idle
  preview : t.preview = some size
  begun : started.getLast? = some (.configurePreview camera.session, viewport)
  chosen : Preview.negotiate? camera.capabilities.previewSizes viewport
    t.settings.aspectTolerance = some size
  published : t.published = s.published ++ [.ready camera.sensor.facing size t.display]

/-- Only a session that is open is announced, with what was found for it. -/
theorem Resizes.announces_of_turn (h : s.Resizes started) (sized : s.Sized) (turn : Turn s t) :
    Unannounced s t ∨ ∃ camera size viewport,
      Announces s t (started ++ (s.starts? (.task .executor)).toList) camera size viewport := by
  obtain ⟨added, published, publishes⟩ := publishes_of_turn turn
  cases publishes with
  | announcement camera size first idle slot preview cause =>
    obtain ⟨current, viewport, begun, chosen⟩ : s.slot = some camera ∧ ∃ viewport,
        (started ++ (s.starts? (.task .executor)).toList).getLast? =
          some (.configurePreview camera.session, viewport) ∧
        Preview.negotiate? camera.capabilities.previewSizes viewport s.settings.aspectTolerance =
          some size := by
      rcases cause with ⟨still, current, chosen, waits⟩ | ⟨routine, stage⟩
      · refine ⟨current, s.viewport, ?_, chosen⟩
        rw [starts?, executes?_of_idle still, waits]
        exact List.getLast?_concat
      · obtain ⟨current, -⟩ := sized.accepted routine camera size stage
        refine ⟨current, ?_⟩
        rw [starts?_of_busy (by simp [stage]), Option.toList_none, List.append_nil]
        exact h routine camera size stage
    rw [← settings_turn turn] at chosen
    exact .inr ⟨camera, size, viewport, current, first, slot.trans current, idle, preview, begun,
      chosen, published⟩
  | _ => exact .inl ⟨_, published, by simp [Event.isReady]⟩

theorem Resizes.announces_of_move (h : s.Resizes started) (tuned : s.Tuned) {m : Move}
    (enabled : s.enabled m = true) :
    Unannounced s (s.move m) ∨ ∃ camera size viewport,
      Announces s (s.move m) (started ++ (s.starts? m).toList) camera size viewport := by
  by_cases own : m = .task .executor
  · subst own
    obtain ⟨held, secured⟩ := tuned.sound.secured
    exact h.announces_of_turn tuned.sized (secured.turn enabled)
  · refine .inl ⟨_, published_move own, ?_⟩
    cases s.develops? m <;> simp [Event.isReady]

/-! ## What a run publishes -/

section

variable {settings : Settings} {cameras : List CameraSpec} {capacity : Nat} {facing : Facing}
  {moves : List Move}

theorem resizes_of_run?
    (run : (ofCameras settings cameras capacity facing).run? moves = some t) :
    t.Previewed ∧ t.Resizes ((ofCameras settings cameras capacity facing).along starts? moves) := by
  refine run?_notes starts? (P := fun u started => u.Previewed ∧ u.Resizes started) ?_ run
    ⟨previewed_ofCameras settings cameras capacity facing, resizes_of_size? rfl⟩
  rintro u m started ⟨previewed, resizes⟩ enabled
  obtain ⟨held, secured⟩ := previewed.tuned.sound.secured
  exact ⟨previewed.move enabled, resizes.move secured enabled⟩

/-- An entry of two lists in a row is one of the first or of the second. -/
theorem append_eq_append_cons {α : Type} {first second earlier later : List α} {a : α}
    (split_ : first ++ second = earlier ++ a :: later) :
    (∃ rest, first = earlier ++ a :: rest) ∨
      ∃ early, second = early ++ a :: later ∧ earlier = first ++ early := by
  rcases List.append_eq_append_iff.1 split_ with
    ⟨early, earlier_eq, second_eq⟩ | ⟨rest, first_eq, rest_eq⟩
  · exact .inr ⟨early, second_eq, earlier_eq⟩
  · cases rest with
    | nil => exact .inr ⟨[], rest_eq.symm, by simpa using first_eq.symm⟩
    | cons b rest =>
      obtain ⟨rfl, -⟩ := List.cons.inj rest_eq
      exact .inl ⟨rest, first_eq⟩

/-- An announcement was published by a move that announces, before anything later was. -/
theorem announced_at (run : (ofCameras settings cameras capacity facing).run? moves = some t)
    {earlier later : List Event} {facing' : Facing} {size : Size} {display : UInt32}
    (published : t.published = earlier ++ .ready facing' size display :: later) :
    ∃ before m after u camera viewport, moves = before ++ m :: after ∧
      (ofCameras settings cameras capacity facing).run? before = some u ∧ u.enabled m = true ∧
      u.published = earlier ∧ facing' = camera.sensor.facing ∧ display = (u.move m).display ∧
      Announces u (u.move m)
        ((ofCameras settings cameras capacity facing).along starts? (before ++ [m])) camera size
        viewport := by
  induction moves using List.reverseRecOn generalizing t later with
  | nil =>
    cases run
    have none : (ofCameras settings cameras capacity facing).published = [] := rfl
    simp [none] at published
  | append_singleton init m ih =>
    obtain ⟨u, run', last⟩ := run?_append_eq_some.1 run
    obtain ⟨enabled, done⟩ := run?_cons_eq_some.1 last
    cases done
    obtain ⟨previewed, resizes⟩ := resizes_of_run? run'
    by_cases known : ∃ rest, u.published = earlier ++ .ready facing' size display :: rest
    · obtain ⟨rest, known⟩ := known
      obtain ⟨before, m', after, v, camera, viewport, rfl, found⟩ := ih run' known
      exact ⟨before, m', after ++ [m], v, camera, viewport, by simp, found⟩
    · rcases resizes.announces_of_move previewed.tuned enabled with
        ⟨added, grown, silent⟩ | ⟨camera, size', viewport, announces⟩
      · obtain ⟨early, new, -⟩ :=
          (append_eq_append_cons (grown.symm.trans published)).resolve_left known
        cases silent (.ready facing' size display) (by simp [new])
      · obtain ⟨early, new, same⟩ :=
          (append_eq_append_cons (announces.published.symm.trans published)).resolve_left known
        cases early with
        | cons e early => simp at new
        | nil =>
          cases new
          refine ⟨init, m, [], u, camera, viewport, rfl, run', enabled, ?_, rfl, rfl, ?_⟩
          · rw [same, List.append_nil]
          · rw [along_append run']
            simpa [along] using announces

/-- How an announcement came about: the move that published it, the camera that was open and how its
device was set right then, and the command that had found the size for its viewport. -/
structure Announcement (start : CameraSystem (Simulator Ticket)) (moves : List Move)
    (earlier : List Event) (facing : Facing) (size : Size) (display : UInt32) where
  before : List Move
  move : Move
  after : List Move
  /-- The system that publishes it with its next move. -/
  publishing : CameraSystem (Simulator Ticket)
  camera : OpenCamera
  device : SimulatedDevice Ticket
  orientation : Orientation
  viewport : Size
  split_eq : moves = before ++ move :: after
  reaches : start.run? before = some publishing
  enabled : publishing.enabled move = true
  earlier_eq : publishing.published = earlier
  published : (publishing.move move).published = earlier ++ [.ready facing size display]
  /-- The session was open before, and was not announced in it. -/
  current : publishing.slot = some camera
  first : publishing.readies = []
  opened : (publishing.move move).state = .opened
  slot : (publishing.move move).slot = some camera
  known : (publishing.move move).service.devices[camera.device]? = some device
  unreleased : device.released = false
  facing_eq : facing = device.spec.sensor.facing
  turned : (publishing.move move).orientation = some orientation
  display_eq : display = orientation.display
  preview : (publishing.move move).preview = some size
  resized : device.preview = size
  begun : (start.along starts? (before ++ [move])).getLast? =
    some (.configurePreview camera.session, viewport)
  visible : viewport.isEmpty = false
  negotiated : Preview.negotiate? device.spec.capabilities.previewSizes viewport
    start.settings.aspectTolerance = some size

/-- Every announcement is the first of the session that is open, and true when it is made. -/
theorem announcement_of_ready
    (run : (ofCameras settings cameras capacity facing).run? moves = some t)
    {earlier later : List Event} {facing' : Facing} {size : Size} {display : UInt32}
    (published : t.published = earlier ++ .ready facing' size display :: later) :
    Nonempty (Announcement (ofCameras settings cameras capacity facing) moves earlier facing' size
      display) := by
  obtain ⟨before, m, after, u, camera, viewport, rfl, run', enabled, rfl, rfl, rfl, announces⟩ :=
    announced_at run published
  have previewed := previewed_of_run? run'
  have tuned := previewed.tuned.move enabled
  obtain ⟨held, secured⟩ := tuned.sound.secured
  obtain ⟨opened, rfl⟩ := secured.of_slot announces.slot
  obtain ⟨d, get, unreleased⟩ := secured.holds.device
  obtain ⟨f, fitted⟩ :=
    tuned.sized.fitted camera ((engaged?_of_idle announces.idle).trans announces.slot)
  cases (secured.holds.last? tuned.sized.newest get).symm.trans fitted.last
  have orientation := tuned.oriented.opened camera announces.slot
  have reached : (ofCameras settings cameras capacity facing).run? (before ++ [m]) =
      some (u.move m) := run?_append_eq_some.2 ⟨u, run', by simp [run?, enabled]⟩
  have settings_eq : (u.move m).settings = settings :=
    settings_of_run? (secured_ofCameras settings cameras capacity facing) reached
  have chosen := announces.chosen
  rw [settings_eq, fitted.capabilities] at chosen
  exact ⟨{
    before, move := m, after, publishing := u, camera, device := d, orientation := _, viewport
    split_eq := rfl, reaches := run', enabled, earlier_eq := rfl, published := announces.published
    current := announces.current
    first := ((previewed.announced.once camera announces.current).resolve_left
      fun already => announces.first already.1).2
    opened, slot := announces.slot, known := get, unreleased
    facing_eq := congrArg Sensor.facing fitted.sensor
    turned := orientation
    display_eq := by
      rw [CameraSystem.display, orientation]
      rfl
    preview := announces.preview
    resized := by
      have set := fitted.aims
      rw [announces.idle, aim_of_idle announces.idle, announces.preview] at set
      exact set
    begun := announces.begun
    visible := by
      cases visible : viewport.isEmpty with
      | false => rfl
      | true => simp [Preview.negotiate?, visible] at chosen
    negotiated := chosen }⟩

/-- Of the commands to configure the preview only those for the session that is open come to
anything. Every announcement is the first of its session and tells how the camera is set right then,
with the size for the viewport that the command found which led to it; a command for another session
changes nothing, and the size of a device is set for no other. -/
theorem ready_never_stale
    (run : (ofCameras settings cameras capacity facing).run? moves = some t) :
    (∀ earlier later facing' size display,
      t.published = earlier ++ .ready facing' size display :: later →
      Nonempty (Announcement (ofCameras settings cameras capacity facing) moves earlier facing' size
        display)) ∧
    (∀ session rest, t.executor.stage = .idle → t.queue = .configurePreview session :: rest →
      t.session? ≠ some session → t.step .executor = { t with queue := rest }) ∧
    (∀ routine next step size, t.executor.stage = .native routine next → step ∈ routine.steps →
      step.call = .setPreviewSize size →
      ∃ camera viewport, t.slot = some camera ∧ routine.device = camera.device ∧
        ((ofCameras settings cameras capacity facing).along starts? moves).getLast? =
          some (.configurePreview camera.session, viewport) ∧
        Preview.negotiate? camera.capabilities.previewSizes viewport settings.aspectTolerance =
          some size) := by
  obtain ⟨previewed, resizes⟩ := resizes_of_run? run
  have settings_eq : t.settings = settings :=
    settings_of_run? (secured_ofCameras settings cameras capacity facing) run
  refine ⟨fun _ _ _ _ _ published => announcement_of_ready run published, ?_, ?_⟩
  · intro session rest idle queue stale
    have ignored : ({ t with queue := rest } : CameraSystem _).configurePreview session =
        { t with queue := rest } := by
      rcases configurePreview_cases { t with queue := rest } session with
        ⟨-, eq⟩ | ⟨camera, slot, own, -⟩
      · exact eq
      · exact absurd (Option.map_eq_some_iff.2 ⟨camera, slot, own⟩) stale
    simp [step, executorStep, idle, queue, execute, ignored]
  · intro routine next step size stage mem call
    have rooted : t.executor.stage.Rooted := rooted_of_run? run trivial
    rw [stage] at rooted
    obtain ⟨camera, rfl, device⟩ := (rooted.purpose mem).1 size call
    obtain ⟨slot, -⟩ := previewed.tuned.sized.accepted routine camera size stage
    obtain ⟨viewport, begun, chosen⟩ := resizes routine camera size stage
    exact ⟨camera, viewport, slot, device, begun, settings_eq ▸ chosen⟩

end

/-- The preview of a session is to be configured when the camera is closed and opened again. -/
def leftBehind : List Move :=
  .flatten [
    [.request (.setViewport ⟨720, 1280⟩), .request (.start .back)], turns 7,
    [.request .pause, .request (.start .back), .task (.preparation 1)], turns 11]

/-- The viewport changes while the preview of the next session is resized. -/
def resizedLate : List Move :=
  .flatten [
    [.task .executor, .task (.preparation 2), .task .executor,
      .request (.setViewport ⟨480, 640⟩)], turns 4]

theorem ready_never_stale_leftBehind :
    ∃ s t, (ofCameras {} Simulator.singleBack 64 .back).run? leftBehind = some s ∧
      s.session? = some 2 ∧ s.step .executor = { s with queue := [] } ∧
      s.run? resizedLate = some t ∧ t.viewport = ⟨480, 640⟩ ∧
      t.published = t.published.dropLast ++ [.ready .back ⟨1920, 1080⟩ 90] ∧
      Nonempty (Announcement (ofCameras {} Simulator.singleBack 64 .back)
        (leftBehind ++ resizedLate) t.published.dropLast .back ⟨1920, 1080⟩ 90) := by
  have checked : ((ofCameras {} Simulator.singleBack 64 .back).run? leftBehind).any fun s =>
      s.executor.stage = .idle ∧ s.session? = some 2 ∧ s.queue = [.configurePreview 1] ∧
        (s.run? resizedLate).any fun t => t.viewport = ⟨480, 640⟩ ∧
          t.published.getLast? = some (.ready .back ⟨1920, 1080⟩ 90) := by
    decide +kernel
  obtain ⟨s, run, facts⟩ := Option.any_eq_true _ _ |>.1 checked
  obtain ⟨idle, open_, queue, goes⟩ := of_decide_eq_true facts
  obtain ⟨t, later, facts'⟩ := Option.any_eq_true _ _ |>.1 goes
  obtain ⟨viewport, last⟩ := of_decide_eq_true facts'
  have stale := (ready_never_stale run).2.1 1 [] idle queue (by simp [open_])
  have published : t.published = t.published.dropLast ++ [.ready .back ⟨1920, 1080⟩ 90] :=
    (List.dropLast_append_getLast? _ last).symm
  have announced :=
    (ready_never_stale (run?_append_eq_some.2 ⟨s, run, later⟩)).1 _ [] _ _ _ published
  exact ⟨s, t, run, open_, stale, later, viewport, published, announced⟩

end Viewfinder.CameraSystem
