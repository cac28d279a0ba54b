import Viewfinder.Proofs.Previewing
import Viewfinder.Proofs.Sessions

/-!
# The capture under way

Over simulated cameras at most one job is under way, and it is the one that was accepted last. A
ticket that waits with the hardware is the one that this job has left there, and so is the ticket of
a frame on its way; while the frame is, no ticket waits.
-/

namespace Viewfinder

/-- The progress that is shown while the job is at a stage. -/
def JobStage.capture : JobStage → CaptureState
  | waiting | ready | requested => .frameRequested
  | received _ => .frameReceived
  | processing _ => .processing

namespace Simulator

variable {τ : Type} {s : Simulator τ}

theorem mem_tickets {ticket : τ} :
    ticket ∈ s.tickets ↔ ∃ d ∈ s.devices, d.ticket = some ticket := by
  simp [tickets]

theorem tickets_setDevice {i : Nat} {d e : SimulatedDevice τ} (get : s.devices[i]? = some d)
    (kept : e.ticket = d.ticket ∨ e.ticket = none) : (s.setDevice i e).tickets ⊆ s.tickets := by
  intro ticket mem
  obtain ⟨f, mem, waits⟩ := mem_tickets.1 mem
  rcases List.mem_or_eq_of_mem_set mem with mem | rfl
  · exact mem_tickets.2 ⟨f, mem, waits⟩
  · rcases kept with same | none
    · exact mem_tickets.2 ⟨d, List.mem_of_getElem? get, same ▸ waits⟩
    · cases none.symm.trans waits

/-- A call leaves no ticket, and a release drops one. -/
theorem tickets_call (i : Nat) (c : DeviceCall) : (s.call i c).2.tickets ⊆ s.tickets := by
  cases get : s.devices[i]? with
  | none => simp [Simulator.call, get]
  | some d =>
    have kept : (d.call s.faults c).2.ticket = d.ticket ∨ (d.call s.faults c).2.ticket = none := by
      unfold SimulatedDevice.call
      repeat' (first | exact .inl rfl | exact .inr rfl | split)
    have set := tickets_setDevice get kept
    simp only [Simulator.call, get]
    split <;> exact set

theorem tickets_requestFrame (i : Nat) (ticket : τ) :
    ∀ other ∈ (s.requestFrame i ticket).2.tickets, other = ticket ∨ other ∈ s.tickets := by
  intro other mem
  cases get : s.devices[i]? with
  | none => exact .inr (by simpa [Simulator.requestFrame, get] using mem)
  | some d =>
    simp only [Simulator.requestFrame, get] at mem
    obtain ⟨f, mem, waits⟩ := mem_tickets.1 mem
    rcases List.mem_or_eq_of_mem_set mem with mem | rfl
    · exact .inr (mem_tickets.2 ⟨f, mem, waits⟩)
    · unfold SimulatedDevice.requestFrame at waits
      split at waits
      · exact .inr (mem_tickets.2 ⟨d, List.mem_of_getElem? get, waits⟩)
      · exact .inl (Option.some.inj waits).symm

theorem tickets_fire (i : Nat) : (s.fire i).2.tickets ⊆ s.tickets := by
  cases get : s.devices[i]? with
  | none => simp [Simulator.fire, get]
  | some d =>
    have kept : d.fired.ticket = d.ticket ∨ d.fired.ticket = none := by
      simp only [SimulatedDevice.fired]
      split
      · exact .inl rfl
      · exact .inr rfl
    rw [tickets, (fire_eq get).2]
    exact tickets_setDevice get kept

/-- A ticket that is served waited with the only device that can have one. -/
theorem Holds.fire_some {held : Option Nat} (h : s.Holds held) (serves : s.Serves) {i : Nat}
    {ticket : τ} {frame : Frame} {after : Simulator τ}
    (served : s.fire i = (some (ticket, frame), after)) :
    ticket ∈ s.tickets ∧ after.tickets = [] := by
  -- a device with a ticket is open, and only one device is
  have at_ {k : Nat} {e : SimulatedDevice τ} {other : τ} (get : s.devices[k]? = some e)
      (waits : e.ticket = some other) : held = some k :=
    (h.released k e get).1 (serves e (List.mem_of_getElem? get) (by simp [waits])).1
  obtain ⟨d, get, waits, open_, runs, -⟩ := serves.handed (congrArg Prod.fst served)
  obtain rfl : (s.fire i).2 = after := congrArg Prod.snd served
  refine ⟨mem_tickets.2 ⟨d, List.mem_of_getElem? get, waits⟩, ?_⟩
  refine List.eq_nil_iff_forall_not_mem.2 fun other mem => ?_
  obtain ⟨f, mem, left⟩ := mem_tickets.1 mem
  rw [(fire_eq get).2] at mem
  obtain ⟨k, get'⟩ := List.getElem?_of_mem mem
  rw [List.getElem?_set] at get'
  split at get'
  · split at get'
    · cases get'
      simp [SimulatedDevice.fired, open_, runs] at left
    · cases get'
  · next ne => exact ne (Option.some.inj ((at_ get waits).symm.trans (at_ get' left)))

end Simulator

namespace CameraSystem

variable {s t : CameraSystem (Simulator Ticket)} {held : Option Nat}

/-- Nothing is under way, or one job, whose number is the newest. -/
structure Roster (s : CameraSystem (Simulator Ticket)) : Prop where
  job : s.jobs = [] ∧ s.capture = .idle ∨
    ∃ j, s.jobs = [j] ∧ s.capture = j.stage.capture ∧ j.ticket.job = s.accepted ∧
      j.ticket.session ≤ s.executor.sessions
  tickets : ∀ ticket ∈ s.service.tickets, s.jobs = [⟨ticket, .requested⟩]
  sent : ∀ sent ∈ s.inFlight, s.jobs = [⟨sent.ticket, .requested⟩] ∧ s.service.tickets = []

/-- No frame is asked for: no ticket waits, and no frame is on its way. -/
structure Unasked (s : CameraSystem (Simulator Ticket)) : Prop where
  tickets : s.service.tickets = []
  inFlight : s.inFlight = []

theorem Roster.of_same (h : s.Roster) (jobs : t.jobs = s.jobs) (capture : t.capture = s.capture)
    (accepted : t.accepted = s.accepted) (inFlight : t.inFlight = s.inFlight)
    (sessions : s.executor.sessions ≤ t.executor.sessions)
    (tickets : t.service.tickets ⊆ s.service.tickets) : t.Roster := by
  refine ⟨?_, fun ticket mem => jobs ▸ h.tickets ticket (tickets mem), fun sent mem => ?_⟩
  · rw [jobs, capture, accepted]
    rcases h.job with none | ⟨j, only, shown, number, session⟩
    · exact .inl none
    · exact .inr ⟨j, only, shown, number, Nat.le_trans session sessions⟩
  · obtain ⟨asked, untaken⟩ := h.sent sent (inFlight ▸ mem)
    exact ⟨jobs.trans asked, List.eq_nil_of_subset_nil (untaken ▸ tickets)⟩

/-- A frame is asked for by a job that has left its ticket. -/
theorem Roster.unasked (h : s.Roster) (other : ∀ ticket, s.jobs ≠ [⟨ticket, .requested⟩]) :
    s.Unasked where
  tickets := List.eq_nil_iff_forall_not_mem.2 fun ticket mem => other ticket (h.tickets ticket mem)
  inFlight := List.eq_nil_iff_forall_not_mem.2 fun sent mem => other _ (h.sent sent mem).1

theorem Unasked.roster (unasked : s.Unasked)
    (job : s.jobs = [] ∧ s.capture = .idle ∨
      ∃ j, s.jobs = [j] ∧ s.capture = j.stage.capture ∧ j.ticket.job = s.accepted ∧
        j.ticket.session ≤ s.executor.sessions) : s.Roster :=
  ⟨job, by simp [unasked.tickets], by simp [unasked.inFlight]⟩

theorem Roster.jobs_of_idle (h : s.Roster) (idle : s.capture = .idle) : s.jobs = [] := by
  rcases h.job with ⟨jobs, -⟩ | ⟨j, -, shown, -⟩
  · exact jobs
  · rw [idle] at shown
    cases stage : j.stage <;> simp [stage, JobStage.capture] at shown

theorem Roster.takePicture (h : s.Roster) (numbered : s.Numbered) (visible : Rect) :
    (s.takePicture visible).2.Roster := by
  unfold CameraSystem.takePicture
  split
  · next session state open_ idle =>
    have none := h.jobs_of_idle idle
    obtain ⟨camera, slot, rfl⟩ := Option.map_eq_some_iff.1 open_
    obtain ⟨tickets, inFlight⟩ := h.unasked (by simp [none])
    exact Unasked.roster ⟨tickets, inFlight⟩ (.inr ⟨_, by rw [none]; rfl, rfl, rfl,
      Nat.le_of_eq (numbered.slot camera slot)⟩)
  · exact h

theorem Roster.request (h : s.Roster) (numbered : s.Numbered) (r : Request) :
    (s.request r).Roster := by
  have sessions : s.executor.sessions ≤ (s.request r).executor.sessions :=
    Nat.le_of_eq (congrArg Executor.sessions (s.request_undisturbed r).executor.symm)
  have tickets : (s.request r).service.tickets ⊆ s.service.tickets := by
    rw [service_request]
    exact List.Subset.refl _
  cases r with
  | takePicture visible => exact h.takePicture numbered visible
  | _ =>
    refine h.of_same ?_ ?_ ?_ ?_ sessions tickets <;>
      simp only [CameraSystem.request, start, openRequest, pause, swap, setViewport, turnDevice,
        tiltDevice, focusOn, setListener, clearListener, barrier, drop, submit] <;>
      repeat' (first | rfl | split)

/-- What is known of the job under way. -/
theorem Roster.only (h : s.Roster) {j : Job} (jobs : s.jobs = [j]) :
    s.capture = j.stage.capture ∧ j.ticket.job = s.accepted ∧
      j.ticket.session ≤ s.executor.sessions := by
  rcases h.job with ⟨none, -⟩ | ⟨k, only, known⟩
  · cases jobs.symm.trans none
  · cases jobs.symm.trans only
    exact known

theorem Roster.session_le (h : s.Roster) {j : Job} (mem : j ∈ s.jobs) :
    j.ticket.session ≤ s.executor.sessions := by
  rcases h.job with ⟨none, -⟩ | ⟨k, only, -, -, session⟩
  · simp [none] at mem
  · rw [only, List.mem_singleton] at mem
    exact mem ▸ session

theorem Roster.unasked_of_other (h : s.Roster) {j : Job} (jobs : s.jobs = [j])
    (other : j.stage ≠ .requested) : s.Unasked :=
  h.unasked fun ticket eq => by
    cases jobs.symm.trans eq
    exact other rfl

theorem Unasked.endJob (unasked : s.Unasked) {j : Job} (jobs : s.jobs = [j]) :
    (s.endJob j.ticket.job).Roster :=
  Unasked.roster ⟨unasked.tickets, unasked.inFlight⟩
    (.inl ⟨by simp [CameraSystem.endJob, removeJob, jobs], rfl⟩)

/-- The job under way goes on to a stage at which no frame is asked for. -/
theorem Roster.setJobStage (h : s.Roster) {j : Job} (jobs : s.jobs = [j]) (stage : JobStage)
    (unasked : s.Unasked) :
    ({ s with capture := stage.capture }.setJobStage j.ticket.job stage).Roster := by
  obtain ⟨-, number, session⟩ := h.only jobs
  exact Unasked.roster ⟨unasked.tickets, unasked.inFlight⟩ (.inr ⟨{ j with stage },
    by simp [CameraSystem.setJobStage, jobs], rfl, number, session⟩)

/-- The job under way leaves its ticket with the camera of its session, which takes it, or ends if
that camera is gone. -/
theorem Roster.requestFrame (h : s.Roster) (secured : s.Secured held) {j : Job}
    (jobs : s.jobs = [j]) (stage : j.stage = .ready) : (s.requestFrame j.ticket).Roster := by
  have unasked := h.unasked_of_other jobs (by simp [stage])
  obtain ⟨shown, number, session⟩ := h.only jobs
  by_cases current : s.session? = some j.ticket.session
  · obtain ⟨camera, slot, same⟩ := Option.map_eq_some_iff.1 current
    rw [secured.requestFrame_eq slot same]
    refine ⟨.inr ⟨{ j with stage := .requested }, by simp [CameraSystem.setJobStage, jobs], ?_,
      number, session⟩, fun ticket mem => ?_, fun sent mem => ?_⟩
    · rw [stage] at shown
      exact shown
    · rcases Simulator.tickets_requestFrame _ _ ticket mem with rfl | before
      · simp [CameraSystem.setJobStage, jobs]
      · simp [unasked.tickets] at before
    · have mem : sent ∈ s.inFlight := mem
      simp [unasked.inFlight] at mem
  · rw [requestFrame_of_ne s current]
    exact unasked.endJob jobs

/-- The ticket of the job under way is the only one that there could be. -/
theorem Roster.unasked_of_lost (h : s.Roster) {j : Job} (jobs : s.jobs = [j])
    (stage : j.stage = .requested) (lost : s.jobReady j = true) : s.Unasked := by
  have lost : j.ticket ∉ s.service.tickets ∧ s.sent? j.ticket.job = none := by
    simpa [jobReady, stage, CameraService.tickets] using lost
  constructor
  · refine List.eq_nil_iff_forall_not_mem.2 fun ticket mem => lost.1 ?_
    cases jobs.symm.trans (h.tickets ticket mem)
    exact mem
  · refine List.eq_nil_iff_forall_not_mem.2 fun sent mem => ?_
    cases jobs.symm.trans (h.sent sent mem).1
    simpa using List.find?_eq_none.1 lost.2 sent mem

theorem Roster.jobStep (h : s.Roster) (secured : s.Secured held) {j : Job} (jobs : s.jobs = [j]) :
    (s.jobStep j).Roster := by
  unfold CameraSystem.jobStep
  cases stage : j.stage with
  | waiting =>
    have unasked := h.unasked_of_other jobs (by simp [stage])
    obtain ⟨shown, -⟩ := h.only jobs
    dsimp only
    split
    · exact unasked.endJob jobs
    · split
      · exact h
      · have readied := h.setJobStage jobs .ready unasked
        rwa [show JobStage.capture .ready = s.capture by rw [shown, stage]; rfl] at readied
  | ready => exact h.requestFrame secured jobs stage
  | requested =>
    dsimp only
    split
    · next lost => exact (h.unasked_of_lost jobs stage lost).endJob jobs
    · exact h
  | received shot =>
    exact h.setJobStage jobs (.processing shot) (h.unasked_of_other jobs (by simp [stage]))
  | processing shot =>
    have unasked := h.unasked_of_other jobs (by simp [stage])
    dsimp only
    split
    · exact (unasked.endJob jobs).of_same rfl rfl rfl rfl (Nat.le_refl _) (List.Subset.refl _)
    · exact unasked.endJob jobs

/-- The ticket of the job under way goes from the device with the frame. -/
theorem Roster.send (h : s.Roster) (secured : s.Secured held) (attended : s.Attended)
    (device : Nat) : (s.send device).Roster := by
  unfold CameraSystem.send
  split
  · next service made =>
    have tickets : service.tickets ⊆ s.service.tickets := by
      have := Simulator.tickets_fire (s := s.service) device
      rwa [show s.service.fire device = _ from made] at this
    exact h.of_same rfl rfl rfl rfl (Nat.le_refl _) tickets
  · next ticket frame service made =>
    obtain ⟨waits, left⟩ := secured.holds.fire_some attended.serves made
    refine ⟨h.job, fun other mem => ?_, fun sent mem => ?_⟩
    · have mem : other ∈ service.tickets := mem
      simp [left] at mem
    · have mem : sent ∈ s.inFlight ++ [⟨ticket, frame⟩] := mem
      rcases List.mem_append.1 mem with before | mem
      · -- a frame was under way while a ticket waited
        exact absurd waits (by simp [(h.sent sent before).2])
      · cases List.mem_singleton.1 mem
        exact ⟨h.tickets ticket waits, left⟩

/-- A frame that is found on its way to a job is the only one, and for the job under way. -/
theorem Roster.of_sent? (h : s.Roster) {job : Nat} {sent : SentFrame}
    (found : s.sent? job = some sent) :
    s.jobs = [⟨sent.ticket, .requested⟩] ∧
      { s with inFlight := s.inFlight.filter (·.ticket.job ≠ job) }.Unasked := by
  obtain ⟨jobs, tickets⟩ := h.sent sent (List.mem_of_find?_eq_some found)
  refine ⟨jobs, tickets, List.filter_eq_nil_iff.2 fun other mem => ?_⟩
  have same : other.ticket = sent.ticket := by simpa using (h.sent other mem).1.symm.trans jobs
  simpa [same] using List.find?_some found

/-- A frame that arrives is for the job under way, if it counts at all. -/
theorem Roster.arrive (h : s.Roster) (job : Nat) : (s.arrive job).Roster := by
  unfold CameraSystem.arrive
  split
  · exact h
  · next sent found =>
    obtain ⟨jobs, unasked⟩ := h.of_sent? found
    have kept := unasked.roster h.job
    unfold handOver
    repeat' (first | exact kept | split)
    exact kept.setJobStage jobs (.received _) unasked

/-- The executor leaves no tickets. -/
theorem tickets_of_turn (turn : Turn s t) : t.service.tickets ⊆ s.service.tickets := by
  have same : s.service.tickets ⊆ s.service.tickets := List.Subset.refl _
  cases turn with
  | take c rest idle queue =>
    rw [service_execute]
    exact same
  | finish idle queue unsent =>
    unfold beginClose
    split <;> exact same
  | missing facing request stage absent | refused facing request stage present =>
    rw [failOpen, withdraw]
    split <;> exact same
  | acquired facing request spec capabilities o stage present =>
    show (s.service.opened spec).tickets ⊆ _
    simp [Simulator.tickets, Simulator.opened, SimulatedDevice.ofSpec]
  | called routine next step rest stage steps =>
    have made : (routine.perform s.service).2 = (s.service.call routine.device step.call).2 :=
      service_perform steps s.service
    show (routine.perform s.service).2.tickets ⊆ _
    rw [made]
    exact Simulator.tickets_call _ _
  | worked routine next works stage steps =>
    rw [(s.resume_returned routine works).service]
    exact same
  | installed | forgotten => exact same

theorem Roster.executorStep (h : s.Roster) (secured : s.Secured held) (numbered : s.Numbered)
    (ready : s.executorReady = true) : s.executorStep.Roster := by
  have turn := secured.turn ready
  have same := s.executorStep_sameCaptures
  exact h.of_same same.jobs same.capture same.accepted same.inFlight (numbered.le_of_turn turn)
    (tickets_of_turn turn)

/-- A job that is found is the one under way. -/
theorem Roster.job_eq (h : s.Roster) {id : Nat} {j : Job} (found : s.job? id = some j) :
    s.jobs = [j] := by
  have mem : j ∈ s.jobs := List.mem_of_find?_eq_some found
  rcases h.job with ⟨none, -⟩ | ⟨k, only, -⟩
  · simp [none] at mem
  · rw [only, List.mem_singleton] at mem
    rw [only, mem]

theorem Roster.move (h : s.Roster) (secured : s.Secured held) (attended : s.Attended)
    (numbered : s.Numbered) {m : Move} (enabled : s.enabled m = true) : (s.move m).Roster := by
  cases m with
  | request r => exact h.request numbered r
  | setFaults faults =>
    exact h.of_same rfl rfl rfl rfl (Nat.le_refl _) (List.Subset.refl _)
  | task t =>
    cases t with
    | executor => exact h.executorStep secured numbered enabled
    | preparation session =>
      simp only [CameraSystem.move, step, prepare, submit]
      split <;> exact h.of_same rfl rfl rfl rfl (Nat.le_refl _) (List.Subset.refl _)
    | job id =>
      simp only [CameraSystem.move, step]
      cases found : s.job? id with
      | none => exact h
      | some j => exact h.jobStep secured (h.job_eq found)
    | bridge feed =>
      simp only [CameraSystem.move, step]
      cases s.bridge? feed <;>
        exact h.of_same rfl rfl rfl rfl (Nat.le_refl _) (List.Subset.refl _)
    | delivery device => exact h.send secured attended device
    | arrival job => exact h.arrive job

/-- All that every moment of a run keeps of the device, the preview, the sessions and the job. -/
structure Sound (s : CameraSystem (Simulator Ticket)) : Prop where
  secured : ∃ held, s.Secured held
  attended : s.Attended
  numbered : s.Numbered
  roster : s.Roster

theorem Sound.move (h : s.Sound) {m : Move} (enabled : s.enabled m = true) : (s.move m).Sound := by
  obtain ⟨⟨held, secured⟩, attended, numbered, roster⟩ := h
  exact ⟨secured.move enabled, attended.move secured enabled, numbered.move secured enabled,
    roster.move secured attended numbered enabled⟩

theorem sound_ofCameras (settings : Settings) (cameras : List CameraSpec) (capacity : Nat)
    (facing : Facing) : (ofCameras settings cameras capacity facing).Sound where
  secured := ⟨none, secured_ofCameras settings cameras capacity facing⟩
  attended := attended_ofCameras settings cameras capacity facing
  numbered := numbered_ofCameras settings cameras capacity facing
  roster := Unasked.roster ⟨rfl, rfl⟩ (.inl ⟨rfl, rfl⟩)

theorem sound_of_run? {settings : Settings} {cameras : List CameraSpec} {capacity : Nat}
    {facing : Facing} {moves : List Move}
    (run : (ofCameras settings cameras capacity facing).run? moves = some t) : t.Sound :=
  run?_keeps (fun _ _ h enabled => h.move enabled) run
    (sound_ofCameras settings cameras capacity facing)

end CameraSystem

end Viewfinder
