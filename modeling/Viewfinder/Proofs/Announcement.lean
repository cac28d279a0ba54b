import Mathlib.Data.List.DropRight
import Viewfinder.Proofs.Departure
import Viewfinder.Proofs.Mailbox
import Viewfinder.Proofs.Renegotiation

/-!
# Announcing the preview

A session is announced as ready with its first preview, and then no more, however often the viewport
changes. With what is known of the negotiation this tells what the users see once nothing can make a
step (`preview_follows_viewport`).
-/

namespace Viewfinder

namespace Event

/-- The camera has been opened. -/
def opens : Event → Bool
  | stateChanged _ .opened _ => true
  | _ => false

/-- The preview runs. -/
def isReady : Event → Bool
  | ready .. => true
  | _ => false

end Event

namespace CameraSystem

section

variable {σ : Type} {s t : CameraSystem σ}

/-- What was published since a camera was opened last. -/
def sinceOpened (s : CameraSystem σ) : List Event := s.published.rtakeWhile fun e => !e.opens

/-- The announcements made in the session that was begun last. -/
def readies (s : CameraSystem σ) : List Event := s.sinceOpened.filter Event.isReady

theorem readies_publish (s : CameraSystem σ) (e : Event) :
    (s.publish e).readies = if e.opens then [] else s.readies ++ [e].filter Event.isReady := by
  rw [readies, sinceOpened, published_publish, List.rtakeWhile_concat]
  cases e.opens <;> simp [readies, sinceOpened]

theorem readies_publish_other (s : CameraSystem σ) {e : Event} (opens : e.opens = false)
    (isReady : e.isReady = false) : (s.publish e).readies = s.readies := by
  simp [readies_publish, opens, isReady]

/-- The open session was announced once, or not yet. -/
structure Announced (s : CameraSystem σ) : Prop where
  begun : ∀ session, s.executor.announced = some session → session ≤ s.executor.sessions
  once : ∀ camera, s.slot = some camera →
    s.executor.announced = some camera.session ∧
        (∃ size display, s.readies = [.ready camera.sensor.facing size display]) ∨
      s.executor.announced ≠ some camera.session ∧ s.readies = []

theorem Announced.of_same (h : s.Announced) (slot : t.slot = s.slot)
    (announced : t.executor.announced = s.executor.announced)
    (sessions : t.executor.sessions = s.executor.sessions) (readies : t.readies = s.readies) :
    t.Announced := by
  refine ⟨?_, ?_⟩
  · rw [announced, sessions]
    exact h.begun
  · rw [slot, announced, readies]
    exact h.once

theorem Announced.of_slot (slot : t.slot = none)
    (begun : ∀ session, t.executor.announced = some session → session ≤ t.executor.sessions) :
    t.Announced := by
  refine ⟨begun, ?_⟩
  intro camera open_
  cases slot.symm.trans open_

theorem Announced.announce (h : s.Announced) (numbered : s.Numbered) {camera : OpenCamera}
    (slot : s.slot = some camera) (size : Size) : (s.announce camera size).Announced := by
  unfold CameraSystem.announce
  split
  · exact h
  · next unannounced =>
    rcases h.once camera slot with ⟨announced, -⟩ | ⟨-, none⟩
    · exact absurd announced unannounced
    · refine ⟨?_, ?_⟩
      · rintro session ⟨⟩
        exact Nat.le_of_eq (numbered.slot camera slot)
      · intro other open_
        cases slot.symm.trans open_
        refine .inl ⟨rfl, size, s.display, ?_⟩
        have before : readies { s with
            executor := { s.executor with announced := some camera.session } } = [] := none
        rw [readies_publish, before]
        rfl

theorem Announced.beginClose (h : s.Announced) (last : Bool) : (s.beginClose last).Announced := by
  refine .of_slot (slot_beginClose s last) ?_
  unfold CameraSystem.beginClose
  split <;> exact h.begun

theorem Announced.refreshOrientation (h : s.Announced) : s.refreshOrientation.Announced := by
  rcases s.refreshOrientation_cases with ⟨-, eq⟩ | ⟨camera, -, ⟨-, eq⟩ | ⟨-, eq⟩⟩
  all_goals rw [eq]
  · exact h
  · exact h.of_same rfl rfl rfl rfl
  · exact h.of_same rfl rfl rfl rfl

theorem Announced.execute [CameraService σ] (h : s.Announced) (numbered : s.Numbered)
    (c : Command) : (s.execute c).Announced := by
  cases c with
  | openCamera facing request =>
    simp only [CameraSystem.execute]
    split
    · exact h
    · next unopened =>
      have slot : s.slot = none := by simpa using unopened
      exact .of_slot slot h.begun
  | closeCamera => exact h.beginClose false
  | configurePreview session =>
    rw [CameraSystem.execute]
    rcases s.configurePreview_cases session with
      ⟨-, eq⟩ | ⟨camera, slot, -, ⟨-, eq⟩ | ⟨size, -, ⟨-, eq⟩ | ⟨-, eq⟩⟩⟩
    all_goals rw [eq]
    · exact h
    · exact h
    · exact h.announce numbered slot size
    · exact h.of_same rfl rfl rfl rfl
  | turnDevice turn =>
    exact Announced.refreshOrientation (s := { s with executor := { s.executor with turn := turn } })
      (h.of_same rfl rfl rfl rfl)
  | tiltDevice angle =>
    exact Announced.refreshOrientation
      (s := { s with executor := { s.executor with angle := some angle } })
      (h.of_same rfl rfl rfl rfl)
  | applyFocus =>
    rw [CameraSystem.execute]
    obtain ⟨tap, eq | ⟨camera, -, eq | ⟨request, eq⟩⟩⟩ := s.applyFocus_cases
    all_goals rw [eq]
    all_goals exact h.of_same rfl rfl rfl rfl
  | barrier => exact h.of_same rfl rfl rfl rfl

end

variable {s t : CameraSystem (Simulator Ticket)} {held : Option Nat}

theorem Announced.resume (h : s.Announced) (numbered : s.Numbered) (sized : s.Sized)
    {routine : Routine} {next : Continuation} (works : next.works = true)
    (stage : s.executor.stage = .native routine next) : (s.resume routine next).Announced := by
  cases next with
  | install | abandon | forget => cases works
  | resize camera size =>
    obtain ⟨slot, accepted⟩ := sized.accepted routine camera size stage
    have resized : { s with preview := some size }.Announced := h.of_same rfl rfl rfl rfl
    simp only [CameraSystem.resume, accepted.result]
    exact (resized.announce ⟨numbered.slot, numbered.begins⟩ slot size).of_same rfl rfl rfl rfl
  | turn o => exact h.of_same rfl rfl rfl (readies_publish_other s rfl rfl)
  | focus request =>
    simp only [CameraSystem.resume]
    split
    · exact h.of_same rfl rfl rfl (readies_publish_other s rfl rfl)
    · exact h.of_same rfl rfl rfl rfl

theorem Announced.of_turn (h : s.Announced) (tuned : s.Tuned) (turn : Turn s t) :
    t.Announced := by
  obtain ⟨held, secured⟩ := tuned.sound.secured
  have numbered := tuned.sound.numbered
  cases turn with
  | take c rest idle queue =>
    exact Announced.execute (s := { s with queue := rest }) (h.of_same rfl rfl rfl rfl)
      ⟨numbered.slot, numbered.begins⟩ c
  | finish idle queue unsent => exact h.beginClose true
  | missing facing request stage absent | refused facing request stage present =>
    obtain ⟨slot, -⟩ := secured.of_opening stage
    rw [failOpen, withdraw_eq]
    exact .of_slot slot h.begun
  | acquired facing request spec capabilities o stage =>
    obtain ⟨slot, -⟩ := secured.of_opening stage
    exact .of_slot slot h.begun
  | called routine next step rest stage steps => exact h.of_same rfl rfl rfl rfl
  | installed routine facing request camera o stage steps =>
    have next : camera.session = s.executor.sessions + 1 :=
      numbered.begins camera.session (by rw [stage]; rfl)
    refine ⟨?_, ?_⟩
    · intro session announced
      have begun := h.begun session announced
      show session ≤ camera.session
      omega
    · rintro other ⟨⟩
      refine .inr ⟨?_, ?_⟩
      · intro announced
        have begun := h.begun camera.session announced
        omega
      · rw [install, readies_publish_other _ rfl rfl, enter, readies_publish]
        rfl
  | forgotten routine facing last stage steps =>
    refine .of_slot (secured.of_closing stage).1 ?_
    rintro session ⟨⟩
  | worked routine next works stage steps => exact h.resume numbered tuned.sized works stage

theorem Announced.move (h : s.Announced) (tuned : s.Tuned) {m : Move}
    (enabled : s.enabled m = true) : (s.move m).Announced := by
  obtain ⟨held, secured⟩ := tuned.sound.secured
  by_cases own : m = .task .executor
  · subst own
    exact h.of_turn tuned (secured.turn enabled)
  · have same := undisturbed_move (s := s) own
    refine h.of_same same.slot (by rw [same.executor]) (by rw [same.executor]) ?_
    -- a captured image is no announcement
    rw [readies, sinceOpened, published_move own]
    cases s.develops? m with
    | none => simp [readies, sinceOpened]
    | some image =>
      simp [readies, sinceOpened, Event.opens, Event.isReady]

/-- All that every moment of a run keeps of the preview. -/
structure Previewed (s : CameraSystem (Simulator Ticket)) : Prop where
  tuned : s.Tuned
  abreast : s.Abreast
  announced : s.Announced

theorem Previewed.move (h : s.Previewed) {m : Move} (enabled : s.enabled m = true) :
    (s.move m).Previewed :=
  ⟨h.tuned.move enabled, h.abreast.move h.tuned enabled, h.announced.move h.tuned enabled⟩

theorem previewed_ofCameras (settings : Settings) (cameras : List CameraSpec) (capacity : Nat)
    (facing : Facing) : (ofCameras settings cameras capacity facing).Previewed := by
  refine ⟨tuned_ofCameras settings cameras capacity facing, abreast_of_slot rfl, .of_slot rfl ?_⟩
  rintro session ⟨⟩

theorem previewed_of_run? {settings : Settings} {cameras : List CameraSpec} {capacity : Nat}
    {facing : Facing} {moves : List Move}
    (run : (ofCameras settings cameras capacity facing).run? moves = some t) : t.Previewed :=
  run?_keeps (fun _ _ h enabled => h.move enabled) run
    (previewed_ofCameras settings cameras capacity facing)

/-- A system that rests with its camera open waits for its users. -/
theorem AtRest.of_opened (rest : t.AtRest) (secured : t.Secured held) (opened : t.state = .opened)
    (uncrashed : t.executor.stage ≠ .crashed) :
    t.executor.stage = .idle ∧ t.queue = [] ∧ t.hasSenders = true ∧
      ∃ camera, t.slot = some camera ∧ held = some camera.device := by
  have open_ := secured.between rest.between
  simp only [opened, reduceCtorEq, false_and, and_false, true_and, false_or] at open_
  have idle : t.executor.stage = .idle := by
    rcases rest.between with idle | stopped | crashed
    · exact idle
    · have custody := secured.custody
      rw [stopped] at custody
      cases opened.symm.trans custody.2.1
    · exact absurd crashed uncrashed
  have unready : t.executorReady = false := rest .executor
  simp only [executorReady, idle, Bool.or_eq_false_iff, Bool.not_eq_false',
    List.isEmpty_iff] at unready
  exact ⟨idle, unready.1, unready.2, open_⟩

/-- The preparation of the session would have to run otherwise, or a command. -/
theorem Previewed.negotiated (h : t.Previewed) (rest : t.AtRest) (queue : t.queue = [])
    (senders : t.hasSenders = true) {camera : OpenCamera} (slot : t.slot = some camera)
    (visible : t.viewport.isEmpty = false) : t.Negotiated camera := by
  rcases h.abreast camera slot visible senders with prepares | waits | negotiated
  · have unready : t.ready (.preparation camera.session) = false := rest _
    simp [ready, prepares, wakes, visible] at unready
  · simp [queue] at waits
  · exact negotiated

/-- Once a camera is open and nothing can make a step, the preview size is the one for the viewport,
if there is one, however it came to change; the device of the camera has this size and its preview
runs, and that was announced once in the session. No preview size is told while the camera is
closed. An executor that has crashed is excepted; without taps none does. -/
theorem preview_follows_viewport {settings : Settings} {cameras : List CameraSpec} {capacity : Nat}
    {facing : Facing} {moves : List Move}
    (run : (ofCameras settings cameras capacity facing).run? moves = some t) :
    (t.state = .closed → t.preview = none) ∧
    ((∀ tap, .request (.focusOn tap) ∉ moves) → t.executor.stage ≠ .crashed) ∧
    (t.AtRest → t.executor.stage ≠ .crashed → t.state = .opened → t.viewport.isEmpty = false →
      ∃ camera d, t.slot = some camera ∧ t.service.devices[camera.device]? = some d ∧
        d.released = false ∧
        t.preview = Preview.negotiate? d.spec.capabilities.previewSizes t.viewport
          settings.aspectTolerance ∧
        ∀ size, t.preview = some size → d.preview = size ∧ d.previewing = true ∧
          ∃ first display, t.readies = [.ready d.spec.sensor.facing first display]) := by
  have previewed := previewed_of_run? run
  have tuned := previewed.tuned
  obtain ⟨held, secured⟩ := tuned.sound.secured
  refine ⟨?_, ?_, ?_⟩
  · intro closed
    have slot : t.slot = none := by
      cases slot : t.slot with
      | none => rfl
      | some camera => cases closed.symm.trans (secured.of_slot slot).1
    have aim := tuned.sized.closed slot (by simp [closed])
    exact (Option.or_eq_none_iff.1 aim).2
  · intro untapped crashed
    obtain ⟨tap, made, -⟩ := tapped_of_crashed run crashed
    exact untapped tap made
  · intro rest uncrashed opened visible
    obtain ⟨idle, queue, senders, camera, slot, rfl⟩ := rest.of_opened secured opened uncrashed
    obtain ⟨d, get, unreleased⟩ := secured.holds.device
    obtain ⟨f, fitted⟩ := tuned.sized.fitted camera ((engaged?_of_idle idle).trans slot)
    cases (secured.holds.last? tuned.sized.newest get).symm.trans fitted.last
    have settings_eq : t.settings = settings := settings_of_run?
      (secured_ofCameras settings cameras capacity facing) run
    have negotiated := previewed.negotiated rest queue senders slot visible
    have aim := aim_of_idle idle
    refine ⟨camera, d, slot, get, unreleased, ?_, ?_⟩
    · rw [← aim, negotiated.aim, negotiated?, settings_eq, fitted.capabilities]
      rfl
    · intro size told
      have set := fitted.aims
      rw [idle, aim, told] at set
      have shows := tuned.sound.attended.shows d (List.mem_of_getElem? get) unreleased
      rw [idle] at shows
      refine ⟨set, shows, ?_⟩
      have made := negotiated.announced (by rw [idle]; rfl) (by rw [aim, told]; rfl)
      rcases previewed.announced.once camera slot with ⟨-, once⟩ | ⟨unannounced, -⟩
      · rw [fitted.sensor] at once
        exact once
      · exact absurd made unannounced

/-- A viewport that changes while the preview is resized for the one before. -/
def resizedTwice : List Move :=
  .flatten [
    [.request (.setViewport ⟨720, 1280⟩), .request (.start .back)], turns 7,
    [.task (.preparation 1), .task .executor, .request (.setViewport ⟨480, 640⟩)], turns 9]

theorem preview_follows_viewport_resizedTwice :
    ∃ t camera d, (ofCameras {} Simulator.singleBack 64 .back).run? resizedTwice = some t ∧
      t.AtRest ∧ t.viewport = ⟨480, 640⟩ ∧ t.slot = some camera ∧
      t.service.devices[camera.device]? = some d ∧ t.preview = some ⟨960, 720⟩ ∧
      d.preview = ⟨960, 720⟩ ∧ d.previewing = true ∧ t.readies.length = 1 := by
  have checked : ((ofCameras {} Simulator.singleBack 64 .back).run? resizedTwice).any fun t =>
      t.state = .opened ∧ t.viewport = ⟨480, 640⟩ ∧ t.preview = some ⟨960, 720⟩ ∧
        ∀ task ∈ t.tasks, t.ready task = false := by
    decide +kernel
  obtain ⟨t, run, facts⟩ := Option.any_eq_true _ _ |>.1 checked
  obtain ⟨opened, viewport, preview, unready⟩ := of_decide_eq_true facts
  have rest : t.AtRest := atRest_of_tasks unready
  obtain ⟨-, untapped, follows⟩ := preview_follows_viewport run
  obtain ⟨camera, d, slot, get, -, -, resized⟩ :=
    follows rest (untapped (by simp [resizedTwice, turns])) opened (by rw [viewport]; decide)
  obtain ⟨size, running, first, display, readies⟩ := resized _ preview
  exact ⟨t, camera, d, run, rest, viewport, slot, get, preview, size, running, by rw [readies]; rfl⟩

end CameraSystem

end Viewfinder
