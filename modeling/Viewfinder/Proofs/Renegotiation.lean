import Viewfinder.Proofs.Tuning

/-!
# The preview follows the viewport

A viewport can change at any time, before a camera is open or while its preview is being resized. As
long as the preview of the open camera was not negotiated for the viewport as it is, a negotiation
is still to come: from the preparation of the session or by a command (`Abreast`).
-/

namespace Viewfinder

namespace CameraSystem

section

variable {σ : Type}

/-- The preview that is in effect, or will be, is the one for the viewport, and it is announced, or
will be. -/
structure Negotiated (s : CameraSystem σ) (camera : OpenCamera) : Prop where
  aim : s.aim = s.negotiated? camera
  announced : s.executor.stage.size? = none → s.aim.isSome = true →
    s.executor.announced = some camera.session

/-- No viewport is forgotten as long as anybody is there to see it. -/
def Abreast (s : CameraSystem σ) : Prop :=
  ∀ camera, s.slot = some camera → s.viewport.isEmpty = false → s.hasSenders = true →
    camera.session ∈ s.preparing ∨ .configurePreview camera.session ∈ s.queue ∨
      s.Negotiated camera

theorem Negotiated.of_same {s t : CameraSystem σ} {camera : OpenCamera} (h : s.Negotiated camera)
    (aim : t.aim = s.aim) (viewport : t.viewport = s.viewport) (settings : t.settings = s.settings)
    (announced : t.executor.announced = s.executor.announced)
    (size : t.executor.stage.size? = none → s.executor.stage.size? = none) :
    t.Negotiated camera := by
  refine ⟨?_, ?_⟩
  · rw [negotiated?, viewport, settings, aim]
    exact h.aim
  · rw [aim, announced]
    exact fun none => h.announced (size none)

theorem Abreast.of_undisturbed {s t : CameraSystem σ} (h : s.Abreast) (same : Undisturbed s t)
    (viewport : t.viewport = s.viewport) (queue : s.queue ⊆ t.queue)
    (preparing : s.preparing ⊆ t.preparing)
    (senders : t.hasSenders = true → s.hasSenders = true) : t.Abreast := by
  intro camera slot visible asked
  rcases h camera (same.slot ▸ slot) (viewport ▸ visible) (senders asked) with
    prepares | waits | negotiated
  · exact .inl (preparing prepares)
  · exact .inr (.inl (queue waits))
  · refine .inr (.inr (negotiated.of_same ?_ viewport same.settings ?_ ?_))
    · rw [aim, same.executor, same.preview, aim]
    · rw [same.executor]
    · rw [same.executor]
      exact id

/-- A viewport that has changed is negotiated for at once if a camera is open. -/
theorem Abreast.setViewport {s : CameraSystem σ} (h : s.Abreast) (viewport : Size) :
    (s.setViewport viewport).Abreast := by
  unfold CameraSystem.setViewport
  split
  · exact h
  · intro camera slot _ _
    dsimp only at slot ⊢
    split at slot
    · next session open_ =>
      have slot : s.slot = some camera := slot
      obtain rfl : camera.session = session := by simpa [session?, slot] using open_
      exact .inr (.inl (by simp [submit]))
    · next closed =>
      have slot : s.slot = some camera := slot
      simp [session?, slot] at closed

/-- The preparation of a session passes its task on to the executor. -/
theorem Abreast.prepare {s : CameraSystem σ} (h : s.Abreast)
    (opened : ∀ camera, s.slot = some camera → s.state = .opened) (session : Nat) :
    (s.prepare session).Abreast := by
  intro camera slot visible asked
  have same := s.prepare_undisturbed session
  have open_ : s.slot = some camera := same.slot ▸ slot
  have viewport : (s.prepare session).viewport = s.viewport := by
    simp only [CameraSystem.prepare, submit]
    split <;> rfl
  have senders : s.hasSenders = true := by
    simp only [CameraSystem.prepare, submit] at asked
    split at asked <;> exact asked
  rw [viewport] at visible
  have kept : camera.session ≠ session → camera.session ∈ s.preparing →
      camera.session ∈ (s.prepare session).preparing := by
    intro other prepares
    simp only [CameraSystem.prepare, submit]
    split <;> simpa [prepares] using other
  rcases h camera open_ visible senders with prepares | waits | negotiated
  · by_cases own : camera.session = session
    · subst own
      have current : s.isOver camera.session = false := by
        simp [isOver, opened camera open_, session?, open_]
      refine .inr (.inl ?_)
      simp [CameraSystem.prepare, current, visible, senders, submit]
    · exact .inl (kept own prepares)
  · refine .inr (.inl ?_)
    simp only [CameraSystem.prepare, submit]
    split
    · exact waits
    · exact List.mem_append_left _ waits
  · refine .inr (.inr (negotiated.of_same ?_ viewport same.settings ?_ ?_))
    · rw [aim, same.executor, same.preview, aim]
    · rw [same.executor]
    · rw [same.executor]
      exact id

theorem hasSenders_jobStep {s : CameraSystem σ} {id : Nat} {j : Job} (found : s.job? id = some j) :
    s.hasSenders = true := by
  have busy : s.jobs ≠ [] := List.ne_nil_of_mem (List.mem_of_find?_eq_some found)
  simp [hasSenders, busy]

variable [CameraService σ]

/-- No preview is negotiated or announced by another command. -/
theorem preview_execute (s : CameraSystem σ) (idle : s.executor.stage = .idle) {c : Command}
    (other : ∀ session, c ≠ .configurePreview session) :
    (s.execute c).aim = s.aim ∧ (s.execute c).executor.announced = s.executor.announced ∧
      (s.execute c).executor.stage.size? = none := by
  have aim : s.aim = none.or s.preview := aim_of_idle idle
  have size : s.executor.stage.size? = none := by rw [idle]; rfl
  cases c with
  | configurePreview session => exact absurd rfl (other session)
  | openCamera =>
    simp only [execute]
    split
    · exact ⟨rfl, rfl, size⟩
    · exact ⟨aim.symm, rfl, rfl⟩
  | closeCamera =>
    simp only [execute, beginClose]
    split <;> exact ⟨aim.symm, rfl, rfl⟩
  | turnDevice | tiltDevice =>
    simp only [execute, refreshOrientation]
    repeat' (first | exact ⟨rfl, rfl, size⟩ | exact ⟨aim.symm, rfl, rfl⟩ | split)
  | applyFocus =>
    rw [execute]
    obtain ⟨tap, eq | ⟨camera, -, eq | ⟨request, eq⟩⟩⟩ := s.applyFocus_cases
    all_goals rw [eq]
    · exact ⟨rfl, rfl, size⟩
    · exact ⟨aim.symm, rfl, rfl⟩
    · exact ⟨aim.symm, rfl, rfl⟩
  | barrier => exact ⟨rfl, rfl, size⟩

theorem Abreast.request {s : CameraSystem σ} (h : s.Abreast) (inUse : s.inUse = true)
    (r : Request) : (s.request r).Abreast := by
  have senders : s.hasSenders = true := by simp [hasSenders, inUse]
  cases r with
  | setViewport viewport => exact h.setViewport viewport
  | _ =>
    refine h.of_undisturbed (s.request_undisturbed _) ?_ ?_ ?_ fun _ => senders <;>
      simp only [CameraSystem.request, start, openRequest, pause, swap, turnDevice, tiltDevice,
        focusOn, takePicture, setListener, clearListener, barrier, drop, submit] <;>
      repeat' (first
        | rfl | exact List.Subset.refl _ | exact List.subset_append_left _ _
        | exact List.subset_append_of_subset_left _ (List.subset_append_left _ _) | split)

theorem hasSenders_send (s : CameraSystem σ) (device : Nat) :
    (s.send device).hasSenders = s.hasSenders := by
  simp only [CameraSystem.send, hasSenders]
  split <;> rfl

omit [CameraService σ] in
theorem hasSenders_arrive (s : CameraSystem σ) (job : Nat) :
    (s.arrive job).hasSenders = s.hasSenders := by
  simp only [CameraSystem.arrive, handOver, setJobStage, hasSenders]
  repeat' (first | rfl | split)
  simp

theorem Abreast.move_of_other [FaultInjection σ] {s : CameraSystem σ} {m : Move} (h : s.Abreast)
    (opened : ∀ camera, s.slot = some camera → s.state = .opened) (other : m ≠ .task .executor)
    (enabled : s.enabled m = true) : (s.move m).Abreast := by
  have same := undisturbed_move (s := s) other
  cases m with
  | request r => exact h.request enabled r
  | setFaults faults =>
    exact h.of_undisturbed same rfl (List.Subset.refl _) (List.Subset.refl _) id
  | task t =>
    cases t with
    | executor => exact absurd rfl other
    | preparation session => exact h.prepare opened session
    | job id =>
      simp only [CameraSystem.move, step] at same ⊢
      cases found : s.job? id with
      | none => exact h
      | some j =>
        rw [found] at same
        have demand := s.jobStep_sameDemand j
        exact h.of_undisturbed same demand.viewport (demand.queue ▸ List.Subset.refl _)
          (demand.preparing ▸ List.Subset.refl _) fun _ => hasSenders_jobStep found
    | bridge feed =>
      simp only [CameraSystem.move, step] at same ⊢
      cases found : s.bridge? feed with
      | none => exact h
      | some b =>
        exact h.of_undisturbed (s.bridgeStep_undisturbed b) rfl (List.Subset.refl _)
          (List.Subset.refl _) id
    | delivery device =>
      obtain ⟨demand, -⟩ := s.send_sameDemand device
      refine h.of_undisturbed same demand.viewport (demand.queue ▸ List.Subset.refl _)
        (demand.preparing ▸ List.Subset.refl _) ?_
      rw [CameraSystem.move, step, hasSenders_send]
      exact id
    | arrival job =>
      obtain ⟨demand, -⟩ := s.arrive_sameDemand job
      refine h.of_undisturbed same demand.viewport (demand.queue ▸ List.Subset.refl _)
        (demand.preparing ▸ List.Subset.refl _) ?_
      rw [CameraSystem.move, step, hasSenders_arrive]
      exact id

end

variable {s t : CameraSystem (Simulator Ticket)} {held : Option Nat}

/-- Whatever the preview was, it is now the one for the viewport, or will be. -/
theorem Sized.negotiated_configurePreview (h : s.Sized) (idle : s.executor.stage = .idle)
    {camera : OpenCamera} (slot : s.slot = some camera) (visible : s.viewport.isEmpty = false) :
    (s.configurePreview camera.session).Negotiated camera := by
  rcases s.configurePreview_cases camera.session with
    ⟨closed, -⟩ | ⟨other, slot', -, ⟨none, eq⟩ | ⟨size, chosen, ⟨kept, eq⟩ | ⟨-, eq⟩⟩⟩
  · simp [session?, slot] at closed
  all_goals
    cases slot.symm.trans slot'
    rw [eq]
  · -- nothing is offered, so that nothing can have been chosen before
    rcases Preview.negotiate?_cases camera.capabilities.previewSizes visible
      s.settings.aspectTolerance with ⟨empty, -⟩ | ⟨size, -, chosen⟩
    · have unset : s.aim = Option.none := by
        cases told : s.aim with
        | none => rfl
        | some size =>
          have mem := h.offered camera slot size told
          simp [empty] at mem
      refine ⟨unset.trans none.symm, fun _ set => ?_⟩
      rw [unset] at set
      cases set
    · cases none.symm.trans chosen
  · have aim : s.aim = some size := (aim_of_idle idle).trans kept
    unfold announce
    split
    · next already => exact ⟨aim.trans chosen.symm, fun _ _ => already⟩
    · exact ⟨aim.trans chosen.symm, fun _ _ => rfl⟩
  · refine ⟨chosen.symm, ?_⟩
    rintro ⟨⟩

theorem Abreast.take (h : s.Abreast) (sized : s.Sized) (idle : s.executor.stage = .idle)
    {c : Command} {rest : List Command} (queue : s.queue = c :: rest) :
    ({ s with queue := rest }.execute c).Abreast := by
  have sized : { s with queue := rest }.Sized := sized.of_idle idle idle rfl rfl rfl rfl
  have same := execute_sameCaptures { s with queue := rest } c
  have errands := execute_sameErrands { s with queue := rest } c
  intro camera slot visible asked
  have open_ : s.slot = some camera := by
    by_cases closes : c = .closeCamera
    · subst closes
      cases (slot_beginClose _ false).symm.trans slot
    · rwa [slot_execute _ closes] at slot
  rw [same.viewport] at visible
  rw [hasSenders, same.inUse, same.jobs] at asked
  rcases h camera open_ visible asked with prepares | waits | negotiated
  · refine .inl ?_
    rw [errands.preparing]
    exact prepares
  · rw [queue, List.mem_cons] at waits
    rcases waits with rfl | waits
    · exact .inr (.inr (sized.negotiated_configurePreview idle open_ visible))
    · refine .inr (.inl ?_)
      rw [errands.queue]
      exact waits
  · refine .inr (.inr ?_)
    have waiting : ({ s with queue := rest } : CameraSystem _).Negotiated camera :=
      negotiated.of_same rfl rfl rfl rfl id
    by_cases configures : ∃ session, c = .configurePreview session
    · obtain ⟨session, rfl⟩ := configures
      by_cases own : camera.session = session
      · exact own ▸ sized.negotiated_configurePreview idle open_ visible
      · have stale : ({ s with queue := rest } : CameraSystem _).configurePreview session =
            { s with queue := rest } := by simp [configurePreview, open_, own]
        rw [execute, stale]
        exact waiting
    · obtain ⟨aim, announced, size⟩ := preview_execute { s with queue := rest } idle
        fun session eq => configures ⟨session, eq⟩
      refine waiting.of_same aim same.viewport errands.settings announced fun _ => ?_
      show s.executor.stage.size? = none
      rw [idle]
      rfl

theorem Abreast.resume (h : s.Abreast) (sized : s.Sized) {routine : Routine}
    {next : Continuation} (works : next.works = true)
    (stage : s.executor.stage = .native routine next) : (s.resume routine next).Abreast := by
  have returned := s.resume_returned routine works
  have same := s.resume_sameCaptures routine next
  have aim := sized.aim_resume works stage
  have errands := s.resume_sameErrands routine works
  intro camera slot visible asked
  rw [returned.slot] at slot
  rw [same.viewport] at visible
  rw [hasSenders, same.inUse, same.jobs] at asked
  rcases h camera slot visible asked with prepares | waits | negotiated
  · exact .inl (errands.preparing ▸ prepares)
  · exact .inr (.inl (returned.queue ▸ waits))
  · refine .inr (.inr ⟨?_, fun _ => ?_⟩)
    · rw [aim, negotiated?, same.viewport, errands.settings]
      exact negotiated.aim
    · rw [aim]
      intro set
      cases next with
      | install | abandon | forget => cases works
      | resize other size =>
        obtain ⟨open_, accepted⟩ := sized.accepted routine other size stage
        cases slot.symm.trans open_
        simp only [CameraSystem.resume, accepted.result, announce]
        split
        · next already => exact already
        · rfl
      | turn o => exact negotiated.announced (by rw [stage]; rfl) set
      | focus request =>
        simp only [CameraSystem.resume]
        split <;> exact negotiated.announced (by rw [stage]; rfl) set

theorem abreast_of_slot {σ : Type} {s : CameraSystem σ} (slot : s.slot = none) : s.Abreast := by
  intro camera open_
  cases slot.symm.trans open_

theorem Abreast.of_turn (h : s.Abreast) (tuned : s.Tuned) (turn : Turn s t) : t.Abreast := by
  obtain ⟨held, secured⟩ := tuned.sound.secured
  cases turn with
  | take c rest idle queue => exact h.take tuned.sized idle queue
  | finish idle queue unsent => exact abreast_of_slot (slot_beginClose s true)
  | missing facing request stage absent | refused facing request stage present =>
    obtain ⟨slot, -⟩ := secured.of_opening stage
    rw [failOpen, withdraw_eq]
    exact abreast_of_slot slot
  | acquired facing request spec capabilities o stage =>
    obtain ⟨slot, -⟩ := secured.of_opening stage
    exact abreast_of_slot slot
  | called routine next step rest stage steps =>
    intro camera slot visible asked
    rcases h camera slot visible asked with prepares | waits | negotiated
    · exact .inl prepares
    · exact .inr (.inl waits)
    · refine .inr (.inr (negotiated.of_same ?_ rfl rfl rfl ?_))
      · rw [aim, aim, stage]
        cases next <;> rfl
      · rw [stage]
        cases next <;> exact id
  | installed routine facing request camera o stage steps =>
    rintro other ⟨⟩ _ _
    exact .inl (List.mem_append_right _ (List.mem_singleton_self _))
  | forgotten routine facing last stage steps => exact abreast_of_slot (secured.of_closing stage).1
  | worked routine next works stage steps => exact h.resume tuned.sized works stage

theorem Abreast.move (h : s.Abreast) (tuned : s.Tuned) {m : Move} (enabled : s.enabled m = true) :
    (s.move m).Abreast := by
  obtain ⟨held, secured⟩ := tuned.sound.secured
  by_cases own : m = .task .executor
  · subst own
    exact h.of_turn tuned (secured.turn enabled)
  · exact h.move_of_other (fun camera slot => (secured.of_slot slot).1) own enabled

end CameraSystem

end Viewfinder
