import Viewfinder.Proofs.Departure
import Viewfinder.Proofs.Gradient
import Viewfinder.Proofs.Orienting
import Viewfinder.Proofs.Publication
import Viewfinder.Proofs.Trace

/-!
# From the request to the image

What a capture goes through shows at four moves: at one it is accepted (`takes?`), at one the device
sends a frame for it (`sends?`), at one the frame reaches it (`hands?`), and at one its image is
published (`develops?`). Between them the camera may be closed, and a session that is over never
comes back (`Gone`).
-/

namespace Viewfinder

namespace Simulator

variable {τ : Type} {s : Simulator τ}

theorem tickets_setDevice_eq {i : Nat} {d e : SimulatedDevice τ} (get : s.devices[i]? = some d)
    (same : e.ticket = d.ticket) : (s.setDevice i e).tickets = s.tickets := by
  have listed (u : Simulator τ) : u.tickets = (u.devices.map (·.ticket)).filterMap id := by
    rw [List.filterMap_map]
    rfl
  rw [listed, listed, map_setDevice get same]

/-- Nothing but a release drops a ticket. -/
theorem tickets_call_eq (i : Nat) {c : DeviceCall} (keeps : c ≠ .release) :
    (s.call i c).2.tickets = s.tickets := by
  cases get : s.devices[i]? with
  | none => simp [call, get]
  | some d =>
    have same : (d.call s.faults c).2.ticket = d.ticket := by simp [d.ticket_call, keeps]
    have set := tickets_setDevice_eq get same
    simp only [call, get]
    split <;> exact set

theorem tickets_fire_eq (i : Nat) (missed : (s.fire i).1 = none) :
    (s.fire i).2.tickets = s.tickets := by
  cases get : s.devices[i]? with
  | none => simp [Simulator.fire, get]
  | some d =>
    rw [(fire_eq get).1] at missed
    have kept : d.fired.ticket = d.ticket := by
      simp only [SimulatedDevice.fired]
      split at missed
      · next idle => rw [if_pos idle]
      · next runs => rw [if_neg runs, Option.map_eq_none_iff.1 missed]
    rw [tickets, (fire_eq get).2]
    exact tickets_setDevice_eq get kept

theorem Holds.mem_tickets_requestFrame {i : Nat} (h : s.Holds (some i)) (ticket : τ) :
    ticket ∈ (s.requestFrame i ticket).2.tickets := by
  obtain ⟨d, get, unreleased⟩ := h.device
  obtain ⟨lt, -⟩ := List.getElem?_eq_some_iff.1 get
  simp only [Simulator.requestFrame, get]
  refine mem_tickets.2 ⟨_, List.mem_set lt _, ?_⟩
  simp [SimulatedDevice.requestFrame, unreleased]

/-- A frame comes from the device that is held, and has its preview size. -/
theorem Holds.fire_device {held : Option Nat} (h : s.Holds held) (serves : s.Serves) {i : Nat}
    {ticket : τ} {frame : Frame} (served : (s.fire i).1 = some (ticket, frame)) :
    held = some i ∧ ∃ d, s.devices[i]? = some d ∧ d.released = false ∧
      frame = Simulator.frame s.faults s.frames d.preview := by
  obtain ⟨d, get, -, open_, -, -, eq⟩ := serves.handed served
  exact ⟨(h.released i d get).1 open_, d, get, open_, eq⟩

end Simulator

/-- A frame that arrives, with the output rotation of that moment. -/
structure Arrival where
  frame : Frame
  rotation : UInt32
deriving DecidableEq

/-- The part of the frame that is wanted of what the viewport shows in `visible`. -/
def Arrival.crop? (a : Arrival) (visible : Rect) : Checked Rect :=
  visiblePart a.frame.size visible a.rotation

def Shot.arrival (shot : Shot) : Arrival := ⟨shot.frame, shot.rotation⟩

def Event.image? : Event → Option CapturedImage
  | .imageCaptured image => some image
  | _ => none

/-- The frame that has reached the job. -/
def JobStage.shot? : JobStage → Option Shot
  | .waiting | .ready | .requested => none
  | .received shot | .processing shot => some shot

/-- The image that a frame makes for a ticket. -/
def develop (quality : UInt8) (handover : Ticket × Arrival) : Option CapturedImage :=
  match handover.2.crop? handover.1.visible with
  | none => none
  | some crop =>
    match handover.2.frame.still handover.2.rotation crop quality with
    | .ok still => some ⟨handover.1.job, still, handover.2.rotation⟩
    | .error _ => none

/-- What comes of a frame whose visible part is known. -/
theorem develop_of_crop {quality : UInt8} {handover : Ticket × Arrival} {crop : Rect}
    (cropped : handover.2.crop? handover.1.visible = some crop) :
    develop quality handover =
      (handover.2.frame.still handover.2.rotation crop quality).toOption.map fun still =>
        ⟨handover.1.job, still, handover.2.rotation⟩ := by
  simp only [develop, cropped]
  cases handover.2.frame.still handover.2.rotation crop quality <;> rfl

theorem develop_eq_some {quality : UInt8} {handover : Ticket × Arrival} {image : CapturedImage} :
    develop quality handover = some image ↔
      ∃ crop, handover.2.crop? handover.1.visible = some crop ∧
        handover.2.frame.still handover.2.rotation crop quality = .ok image.still ∧
        image.job = handover.1.job ∧ image.rotation = handover.2.rotation := by
  obtain ⟨job, still, rotation⟩ := image
  unfold develop
  split
  · next uncropped => simp [uncropped]
  · next crop cropped =>
    simp only [cropped, Option.some.injEq, exists_eq_left']
    split
    · next made =>
      rw [made]
      simp only [Option.some.injEq, CapturedImage.mk.injEq, Except.ok.injEq]
      constructor
      · rintro ⟨rfl, rfl, rfl⟩
        exact ⟨rfl, rfl, rfl⟩
      · rintro ⟨rfl, rfl, rfl⟩
        exact ⟨rfl, rfl, rfl⟩
    · next failed => simp [failed]

namespace CameraSystem

section

variable {σ : Type}

/-- The images that were published, oldest first. -/
def images (s : CameraSystem σ) : List CapturedImage := s.published.filterMap Event.image?

/-- The frames that have reached a job and are not developed yet. -/
def shooting (s : CameraSystem σ) : List (Ticket × Arrival) :=
  s.jobs.filterMap fun j => j.stage.shot?.map fun shot => (j.ticket, shot.arrival)

/-- A session that has begun and is over. -/
def Gone (s : CameraSystem σ) (session : Nat) : Prop :=
  session ≤ s.executor.sessions ∧ s.session? ≠ some session

theorem images_publish (s : CameraSystem σ) (e : Event) :
    (s.publish e).images = s.images ++ e.image?.toList := by
  rw [images, published_publish, List.filterMap_append]
  cases e <;> rfl

variable [CameraService σ]

/-- The ticket of the capture that a move accepts. -/
def takes? (s : CameraSystem σ) : Move → Option Ticket
  | .request (.takePicture visible) =>
    if (s.takePicture visible).1 then
      s.session?.map fun session => ⟨s.accepted + 1, session, visible⟩
    else none
  | _ => none

/-- The frame that a device sends at a move. -/
def sends? (s : CameraSystem σ) : Move → Option SentFrame
  | .task (.delivery device) =>
    (CameraService.fire device s.service).1.map fun (ticket, frame) => ⟨ticket, frame⟩
  | _ => none

omit [CameraService σ] in
/-- The frame that reaches a capture at a move, with the rotation of that moment. -/
def hands? (s : CameraSystem σ) : Move → Option (Ticket × Arrival)
  | .task (.arrival job) =>
    match s.sent? job, s.orientation with
    | some sent, some o =>
      if s.session? = some sent.ticket.session then some (sent.ticket, ⟨sent.frame, o.output⟩)
      else none
    | _, _ => none
  | _ => none

omit [CameraService σ] in
/-- A capture is accepted while a camera is open and none is under way. -/
theorem takePicture_cases (s : CameraSystem σ) (visible : Rect) :
    (s.takePicture visible = (false, s) ∧ s.takes? (.request (.takePicture visible)) = none) ∨
    ∃ session, s.state = .opened ∧ s.session? = some session ∧ s.capture = .idle ∧
      s.takes? (.request (.takePicture visible)) = some ⟨s.accepted + 1, session, visible⟩ ∧
      s.takePicture visible = (true, { s with
        capture := .frameRequested
        accepted := s.accepted + 1
        jobs := s.jobs ++ [⟨⟨s.accepted + 1, session, visible⟩, .waiting⟩] }) := by
  cases state : s.state <;> cases session : s.session? <;> cases capture : s.capture <;>
    simp [takes?, takePicture, state, session, capture]

/-- A device sends the frame that is due on it, if there is one. -/
theorem send_cases (s : CameraSystem σ) (device : Nat) :
    (s.sends? (.task (.delivery device)) = none ∧
      (CameraService.fire device s.service).1 = none ∧
      s.send device = { s with service := (CameraService.fire device s.service).2 }) ∨
    ∃ ticket frame, s.sends? (.task (.delivery device)) = some ⟨ticket, frame⟩ ∧
      (CameraService.fire device s.service).1 = some (ticket, frame) ∧
      s.send device = { s with
        service := (CameraService.fire device s.service).2
        inFlight := s.inFlight ++ [⟨ticket, frame⟩] } := by
  unfold send
  rcases made : CameraService.fire device s.service with ⟨_ | ⟨ticket, frame⟩, service⟩
  · exact .inl ⟨by simp [sends?, made], rfl, rfl⟩
  · exact .inr ⟨ticket, frame, by simp [sends?, made], rfl, rfl⟩

omit [CameraService σ] in
theorem handOver_cases (s : CameraSystem σ) (ticket : Ticket) (frame : Frame) :
    ((s.session? ≠ some ticket.session ∨ s.orientation = none) ∧ s.handOver ticket frame = s) ∨
    ∃ o, s.session? = some ticket.session ∧ s.orientation = some o ∧
      (visiblePart frame.size ticket.visible o.output = none ∧ s.handOver ticket frame = s ∨
        ∃ crop, visiblePart frame.size ticket.visible o.output = some crop ∧
          s.handOver ticket frame = { s with capture := .frameReceived }.setJobStage ticket.job
            (.received ⟨frame, o.output, crop⟩)) := by
  unfold handOver
  split
  · next lapsed => exact .inl ⟨.inl lapsed, rfl⟩
  · next open_ =>
    split
    · next orientation => exact .inl ⟨.inr orientation, rfl⟩
    · next o orientation =>
      refine .inr ⟨o, Decidable.not_not.1 open_, orientation, ?_⟩
      split
      · next uncropped => exact .inl ⟨uncropped, rfl⟩
      · next crop cropped => exact .inr ⟨crop, cropped, rfl⟩

omit [CameraService σ] in
/-- A frame that arrives counts while the session of its ticket is open, and its job goes on if the
part that is wanted of it can be computed. -/
theorem arrive_cases (s : CameraSystem σ) {job : Nat} {sent : SentFrame}
    (found : s.sent? job = some sent) :
    (s.hands? (.task (.arrival job)) = none ∧
      (s.session? ≠ some sent.ticket.session ∨ s.orientation = none) ∧
      s.arrive job = { s with inFlight := s.inFlight.filter (·.ticket.job ≠ job) }) ∨
    ∃ o, s.session? = some sent.ticket.session ∧ s.orientation = some o ∧
      s.hands? (.task (.arrival job)) = some (sent.ticket, ⟨sent.frame, o.output⟩) ∧
      (visiblePart sent.frame.size sent.ticket.visible o.output = none ∧
          s.arrive job = { s with inFlight := s.inFlight.filter (·.ticket.job ≠ job) } ∨
        ∃ crop, visiblePart sent.frame.size sent.ticket.visible o.output = some crop ∧
          s.arrive job = { s with
            inFlight := s.inFlight.filter (·.ticket.job ≠ job)
            capture := .frameReceived }.setJobStage sent.ticket.job
              (.received ⟨sent.frame, o.output, crop⟩)) := by
  simp only [arrive, found]
  rcases handOver_cases { s with inFlight := s.inFlight.filter (·.ticket.job ≠ job) }
      sent.ticket sent.frame with ⟨missed, eq⟩ | ⟨o, open_, orientation, outcome⟩
  · have missed : s.session? ≠ some sent.ticket.session ∨ s.orientation = none := missed
    refine .inl ⟨?_, missed, eq⟩
    rcases missed with lapsed | blind
    · cases orientation : s.orientation <;> simp [hands?, found, orientation, lapsed]
    · simp [hands?, found, blind]
  · have open_ : s.session? = some sent.ticket.session := open_
    have orientation : s.orientation = some o := orientation
    exact .inr ⟨o, open_, orientation, by simp [hands?, found, orientation, open_], outcome⟩

omit [CameraService σ] in
theorem takes?_eq_some {s : CameraSystem σ} {m : Move} {ticket : Ticket}
    (taken : s.takes? m = some ticket) :
    ∃ camera, m = .request (.takePicture ticket.visible) ∧
      (s.takePicture ticket.visible).1 = true ∧ s.state = .opened ∧ s.slot = some camera ∧
      ticket.job = s.accepted + 1 ∧ ticket.session = camera.session := by
  cases m with
  | setFaults | task => cases taken
  | request r =>
    cases r with
    | takePicture visible =>
      rcases s.takePicture_cases visible with ⟨-, none⟩ | ⟨session, state, open_, -, accepts, eq⟩
      · cases none.symm.trans taken
      · cases accepts.symm.trans taken
        obtain ⟨camera, slot, rfl⟩ := Option.map_eq_some_iff.1 open_
        exact ⟨camera, rfl, by rw [eq], state, slot, rfl, rfl⟩
    | _ => cases taken

theorem sends?_eq_some {s : CameraSystem σ} {m : Move} {sent : SentFrame}
    (sends : s.sends? m = some sent) :
    ∃ device, m = .task (.delivery device) ∧
      (CameraService.fire device s.service).1 = some (sent.ticket, sent.frame) := by
  cases m with
  | setFaults | request => cases sends
  | task task =>
    cases task with
    | delivery device =>
      obtain ⟨⟨ticket, frame⟩, made, rfl⟩ := Option.map_eq_some_iff.1 sends
      exact ⟨device, rfl, made⟩
    | _ => cases sends

omit [CameraService σ] in
theorem hands?_eq_some {s : CameraSystem σ} {m : Move} {ticket : Ticket} {arrival : Arrival}
    (reached : s.hands? m = some (ticket, arrival)) :
    ∃ job o, m = .task (.arrival job) ∧ s.sent? job = some ⟨ticket, arrival.frame⟩ ∧
      s.orientation = some o ∧ s.session? = some ticket.session ∧
      arrival.rotation = o.output := by
  cases m with
  | setFaults | request => cases reached
  | task task =>
    cases task with
    | arrival job =>
      cases found : s.sent? job with
      | none => simp [hands?, found] at reached
      | some sent =>
        rcases s.arrive_cases found with ⟨none, -⟩ | ⟨o, open_, turned, eq, -⟩
        · cases none.symm.trans reached
        · cases eq.symm.trans reached
          exact ⟨job, o, rfl, found, turned, open_, rfl⟩
    | _ => cases reached

end

variable {s t : CameraSystem (Simulator Ticket)} {held : Option Nat} {m : Move}

/-- A frame is sent to the job that waits for it. -/
theorem Sound.served (sound : s.Sound) {device : Nat} {ticket : Ticket} {frame : Frame}
    (served : (s.service.fire device).1 = some (ticket, frame)) :
    s.jobs = [⟨ticket, .requested⟩] := by
  obtain ⟨held, secured⟩ := sound.secured
  obtain ⟨waits, -⟩ := secured.holds.fire_some sound.attended.serves (Prod.ext served rfl)
  exact sound.roster.tickets ticket waits

/-! ## Frames on their way -/

theorem inFlight_handOver {σ : Type} (s : CameraSystem σ) (ticket : Ticket) (frame : Frame) :
    (s.handOver ticket frame).inFlight = s.inFlight := by
  rcases s.handOver_cases ticket frame with ⟨-, eq⟩ | ⟨o, -, -, ⟨-, eq⟩ | ⟨crop, -, eq⟩⟩ <;>
    rw [eq]
  rfl

theorem inFlight_request (s : CameraSystem (Simulator Ticket)) (r : Request) :
    (s.request r).inFlight = s.inFlight := by
  cases r <;>
    simp only [CameraSystem.request, start, openRequest, pause, swap, setViewport, turnDevice,
      tiltDevice, focusOn, takePicture, setListener, clearListener, barrier, drop, submit] <;>
    repeat' (first | rfl | split)

/-- Frames get on their way by being sent, and only an arrival takes them off it. -/
theorem inFlight_move (s : CameraSystem (Simulator Ticket)) (m : Move) :
    ∀ sent ∈ (s.move m).inFlight, sent ∈ s.inFlight ∨ s.sends? m = some sent := by
  intro sent mem
  have of_eq {t : CameraSystem (Simulator Ticket)} (same : t.inFlight = s.inFlight)
      (mem : sent ∈ t.inFlight) : sent ∈ s.inFlight ∨ s.sends? m = some sent :=
    .inl (same ▸ mem)
  cases m with
  | request r => exact of_eq (s.inFlight_request r) mem
  | setFaults faults => exact .inl mem
  | task t =>
    cases t with
    | executor => exact of_eq s.executorStep_sameCaptures.inFlight mem
    | preparation session =>
      refine of_eq ?_ mem
      simp only [move, step, prepare, submit]
      split <;> rfl
    | job id =>
      refine of_eq ?_ mem
      simp only [move, step]
      cases s.job? id with
      | none => rfl
      | some j =>
        simp only [Option.elim, jobStep, requestFrame]
        repeat' (first | rfl | split)
    | bridge feed =>
      refine of_eq ?_ mem
      simp only [move, step]
      cases s.bridge? feed <;> rfl
    | delivery device =>
      rcases s.send_cases device with ⟨-, -, eq⟩ | ⟨ticket, frame, sends, -, eq⟩
      · exact of_eq (t := s.send device) (by rw [eq]) mem
      · rw [move, step, eq] at mem
        rcases List.mem_append.1 mem with before | new
        · exact .inl before
        · cases List.mem_singleton.1 new
          exact .inr sends
    | arrival job =>
      refine .inl ?_
      cases found : s.sent? job with
      | none => simpa [move, step, arrive, found] using mem
      | some landed =>
        simp only [move, step, arrive, found, inFlight_handOver] at mem
        exact (List.mem_filter.1 mem).1

/-- Every frame on its way was sent by a device at some move of the run. -/
theorem sent_of_run? {settings : Settings} {cameras : List CameraSpec} {capacity : Nat}
    {facing : Facing} {moves : List Move}
    (run : (ofCameras settings cameras capacity facing).run? moves = some t) {sent : SentFrame}
    (mem : sent ∈ t.inFlight) :
    ∃ before device after u, moves = before ++ .task (.delivery device) :: after ∧
      (ofCameras settings cameras capacity facing).run? before = some u ∧
      u.enabled (.task (.delivery device)) = true ∧
      (u.service.fire device).1 = some (sent.ticket, sent.frame) ∧
      (u.move (.task (.delivery device))).run? after = some t := by
  have noted : ∀ sent ∈ t.inFlight,
      sent ∈ (ofCameras settings cameras capacity facing).along sends? moves := by
    refine run?_notes sends? (P := fun u seen => ∀ sent ∈ u.inFlight, sent ∈ seen) ?_ run nofun
    intro u m seen known _ sent mem
    rcases inFlight_move u m sent mem with before | now
    · exact List.mem_append_left _ (known sent before)
    · exact List.mem_append_right _ (Option.mem_toList.2 now)
  obtain ⟨before, m, after, u, rfl, earlier, allowed, sends, later⟩ :=
    mem_along run (noted sent mem)
  obtain ⟨device, rfl, made⟩ := sends?_eq_some sends
  exact ⟨before, device, after, u, rfl, earlier, allowed, made, later⟩

/-- The executor publishes no image. -/
theorem images_of_turn (turn : Turn s t) : t.images = s.images := by
  obtain ⟨added, published, publishes⟩ := publishes_of_turn turn
  rw [images, published, List.filterMap_append, images]
  cases publishes <;> exact List.append_nil _

theorem images_move (secured : s.Secured held) (enabled : s.enabled m = true) :
    (s.move m).images = s.images ++ (s.develops? m).toList := by
  by_cases own : m = .task .executor
  · subst own
    exact (images_of_turn (secured.turn enabled)).trans (List.append_nil _).symm
  · rw [images, published_move own, List.filterMap_append]
    cases s.develops? m <;> rfl

/-! ## Sessions that are over -/

/-- A camera leaves the slot when its session is over; the one that comes begins the next. -/
theorem Numbered.slot_of_turn (h : s.Numbered) (turn : Turn s t) :
    t.slot = s.slot ∨ t.slot = none ∨
      ∃ camera, t.slot = some camera ∧ camera.session = s.executor.sessions + 1 := by
  cases turn with
  | take c rest idle queue =>
    by_cases closes : c = .closeCamera
    · subst closes
      exact .inr (.inl (slot_beginClose _ false))
    · exact .inl (slot_execute _ closes)
  | finish idle queue unsent => exact .inr (.inl (slot_beginClose s true))
  | missing facing request stage absent | refused facing request stage present =>
    rw [failOpen, withdraw_eq]
    exact .inl rfl
  | acquired | called | forgotten => exact .inl rfl
  | installed routine facing request camera o stage steps =>
    exact .inr (.inr ⟨camera, rfl, h.begins camera.session (by rw [stage]; rfl)⟩)
  | worked routine next works stage steps =>
    exact .inl (s.resume_returned routine works).slot

theorem Gone.of_turn {session : Nat} (h : s.Gone session) (numbered : s.Numbered)
    (turn : Turn s t) : t.Gone session := by
  obtain ⟨begun, lapsed⟩ := h
  refine ⟨Nat.le_trans begun (numbered.le_of_turn turn), ?_⟩
  rcases numbered.slot_of_turn turn with same | none | ⟨camera, slot, next⟩
  · rw [session?, same]
    exact lapsed
  · simp [session?, none]
  · intro back
    rw [session?, slot] at back
    have same : camera.session = session := Option.some.inj back
    omega

theorem Gone.of_undisturbed {session : Nat} (h : s.Gone session) (same : Undisturbed s t) :
    t.Gone session := by
  rw [Gone, session?, same.slot, same.executor]
  exact h

theorem Gone.move {session : Nat} (h : s.Gone session) (sound : s.Sound)
    (enabled : s.enabled m = true) : (s.move m).Gone session := by
  by_cases own : m = .task .executor
  · subst own
    obtain ⟨held, secured⟩ := sound.secured
    exact h.of_turn sound.numbered (secured.turn enabled)
  · exact h.of_undisturbed (undisturbed_move own)

/-- A session that is over never comes back. -/
theorem Gone.of_run? {session : Nat} {moves : List Move} (h : s.Gone session) (sound : s.Sound)
    (run : s.run? moves = some t) : t.Gone session :=
  (run?_keeps (P := fun u => u.Sound ∧ u.Gone session)
    (fun _ _ ⟨sound, gone⟩ enabled => ⟨sound.move enabled, gone.move sound enabled⟩) run
    ⟨sound, h⟩).2

/-- While a camera stays in the slot the executor drops no ticket. -/
theorem tickets_of_turn_eq (secured : s.Secured held) (turn : Turn s t) {camera : OpenCamera}
    (slot : s.slot = some camera) : t.service.tickets = s.service.tickets := by
  cases turn with
  | take c rest idle queue => rw [service_execute]
  | finish idle queue unsent =>
    unfold beginClose
    split <;> rfl
  | missing facing request stage | refused facing request stage | acquired facing request _ _ _ stage =>
    obtain ⟨empty, -⟩ := secured.of_opening stage
    cases empty.symm.trans slot
  | called routine next step rest stage steps =>
    have custody := secured.custody
    rw [stage, slot] at custody
    have keeps : routine.Keeps := by
      cases next with
      | install | forget => cases custody.1
      | abandon => exact custody.elim
      | resize | turn | focus =>
        obtain ⟨-, -, -, -, -, keeps⟩ := custody
        exact keeps
    show (routine.perform s.service).2.tickets = _
    rw [service_perform steps s.service]
    exact Simulator.tickets_call_eq _ (keeps step (by simp [steps]))
  | installed | forgotten => rfl
  | worked routine next works stage steps => rw [(s.resume_returned routine works).service]

end CameraSystem

end Viewfinder
