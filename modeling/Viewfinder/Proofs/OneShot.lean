import Mathlib.Data.List.Perm.Basic
import Viewfinder.Proofs.Guarding
import Viewfinder.Proofs.Handling

/-!
# A frame for a ticket

Several frames may be due on a device, for one ticket, and find another ticket when they arrive, or
none. A ticket that is left (`leaves?`) is handed back once with a frame (`hands?`), or dropped for
another one or with the device (`drops?`), or waits: nothing is lost and nothing comes twice
(`Serves.perm_tickets_run`).
-/

namespace Viewfinder.Simulator

variable {τ : Type} {s : Simulator τ} {i : Nat} {d : SimulatedDevice τ} {ticket : τ}

/-- The ticket that is left at a move. -/
def leaves? (s : Simulator τ) : SimulatorMove τ → Option τ
  | .requestFrame i ticket =>
    match (s.requestFrame i ticket).1 with
    | .done () => some ticket
    | .refused _ | .crashed => none
  | _ => none

/-- The ticket that makes way for another one, or goes with its device. -/
def drops? (s : Simulator τ) : SimulatorMove τ → Option τ
  | .requestFrame i _ | .call i .release => s.devices[i]?.bind (·.ticket)
  | _ => none

/-- The ticket that is handed back, with its frame. -/
def hands? (s : Simulator τ) : SimulatorMove τ → Option (τ × Frame)
  | .fire i => (s.fire i).1
  | _ => none

/-! ## Tickets -/

/-- A device that is replaced takes its ticket away and brings its own. -/
theorem perm_tickets_set {devices : List (SimulatedDevice τ)} (get : devices[i]? = some d)
    (e : SimulatedDevice τ) :
    (d.ticket.toList ++ (devices.set i e).filterMap (·.ticket)).Perm
      (e.ticket.toList ++ devices.filterMap (·.ticket)) := by
  obtain ⟨lt, rfl⟩ := List.getElem?_eq_some_iff.1 get
  have exchange : (devices[i] :: devices.set i e).Perm (e :: devices) :=
    ((List.set_perm_cons_eraseIdx lt e).cons _).trans
      ((List.Perm.swap _ _ _).trans ((List.getElem_cons_eraseIdx_perm lt).cons e))
  have listed := exchange.filterMap (·.ticket)
  simpa only [List.filterMap_eq_flatMap_toList, List.flatMap_cons] using listed

/-- A device that is released has no ticket. -/
theorem Serves.ticket_eq_none (h : s.Serves) (get : s.devices[i]? = some d)
    (gone : d.released = true) : d.ticket = none := by
  by_contra waits
  have open_ := (h d (List.mem_of_getElem? get) (Option.isSome_iff_ne_none.2 waits)).1
  rw [gone] at open_
  cases open_

/-- A release drops the ticket that waits, and no other call touches it. -/
theorem Serves.perm_tickets_call (h : s.Serves) (i : Nat) (c : DeviceCall) :
    ((s.drops? (.call i c)).toList ++ (s.call i c).2.tickets).Perm s.tickets := by
  cases get : s.devices[i]? with
  | none => cases c <;> simp [drops?, Simulator.call, get]
  | some d =>
    have moved := perm_tickets_set get (d.call s.faults c).2
    rw [← devices_call get, d.ticket_call] at moved
    by_cases last : c = .release
    · subst last
      cases gone : d.released with
      | false => simpa [drops?, tickets, get, gone] using moved
      | true =>
        have none := h.ticket_eq_none get gone
        simpa [drops?, tickets, get, gone, none] using moved
    · have kept : s.drops? (.call i c) = none := by
        cases c with
        | release => exact absurd rfl last
        | _ => rfl
      simpa [kept, tickets, last, List.perm_append_left_iff] using moved

/-- A ticket that is left takes the place of the one that waited. -/
theorem Serves.perm_tickets_requestFrame (h : s.Serves) (i : Nat) (ticket : τ) :
    ((s.drops? (.requestFrame i ticket)).toList ++ (s.requestFrame i ticket).2.tickets).Perm
      (s.tickets ++ (s.leaves? (.requestFrame i ticket)).toList) := by
  cases get : s.devices[i]? with
  | none => simp [drops?, leaves?, Simulator.requestFrame, get]
  | some d =>
    cases gone : d.released with
    | true =>
      have none := h.ticket_eq_none get gone
      simp [drops?, leaves?, requestFrame_of_released get gone, get, none]
    | false =>
      have moved := perm_tickets_set get (d.requestFrame ticket).2
      rw [← devices_requestFrame get] at moved
      have left : s.leaves? (.requestFrame i ticket) = some ticket := by
        simp [leaves?, Simulator.requestFrame, get, SimulatedDevice.requestFrame, gone]
      have waits : (d.requestFrame ticket).2.ticket = some ticket := by
        simp [SimulatedDevice.requestFrame, gone]
      rw [waits] at moved
      simpa [drops?, left, tickets, get] using moved.trans List.perm_append_comm

/-- A frame takes the ticket that it is handed over for. -/
theorem perm_tickets_fire (s : Simulator τ) (i : Nat) :
    (((s.fire i).1.map (·.1)).toList ++ (s.fire i).2.tickets).Perm s.tickets := by
  cases get : s.devices[i]? with
  | none => simp [Simulator.fire, get]
  | some d =>
    have moved := perm_tickets_set get d.fired
    rw [← (fire_eq get).2] at moved
    cases idle : d.released || !d.previewing with
    | true =>
      simpa [tickets, (fire_eq get).1, idle, SimulatedDevice.fired, List.perm_append_left_iff] using
        moved
    | false =>
      simpa [tickets, (fire_eq get).1, idle, SimulatedDevice.fired, Function.comp_def] using moved

/-- At each move, what was there and what is left is what is handed back, dropped or still there. -/
theorem Serves.perm_tickets_move (h : s.Serves) (m : SimulatorMove τ) :
    (((s.hands? m).map (·.1)).toList ++ (s.drops? m).toList ++ (s.move m).tickets).Perm
      (s.tickets ++ (s.leaves? m).toList) := by
  cases m with
  | setFaults => simp [hands?, drops?, leaves?, Simulator.move, tickets]
  | acquire facing =>
    rcases s.acquire_refused_or_done facing with ⟨e, faults, eq⟩ | ⟨spec, -, -, eq⟩ <;>
      simp [hands?, drops?, leaves?, Simulator.move, eq, tickets, Simulator.opened,
        SimulatedDevice.ofSpec]
  | call i c => simpa [hands?, leaves?, Simulator.move] using h.perm_tickets_call i c
  | requestFrame i ticket =>
    simpa [hands?, Simulator.move] using h.perm_tickets_requestFrame i ticket
  | fire i => simpa [hands?, drops?, leaves?, Simulator.move] using s.perm_tickets_fire i

/-- Along a run every ticket that waits at first or is left on the way is handed back, dropped, or
waits at last. -/
theorem Serves.perm_tickets_run (h : s.Serves) (moves : List (SimulatorMove τ)) :
    ((s.along hands? moves).map (·.1) ++ s.along drops? moves ++ (s.run moves).tickets).Perm
      (s.tickets ++ s.along leaves? moves) := by
  induction moves generalizing s with
  | nil => simp [along, Simulator.run]
  | cons m rest ih =>
    have now := h.perm_tickets_move m
    have later := ih (h.move m)
    rw [show s.run (m :: rest) = (s.move m).run rest from rfl]
    classical
    refine List.perm_iff_count.2 fun ticket => ?_
    have now := List.perm_iff_count.1 now ticket
    have later := List.perm_iff_count.1 later ticket
    simp only [along, List.map_append, ← Option.toList_map, List.count_append] at now later ⊢
    omega

/-- A ticket waits on the device on which it was left. -/
theorem requested_of_waits {moves : List (SimulatorMove τ)}
    (get : (s.run moves).devices[i]? = some d) (waits : d.ticket = some ticket) :
    (∃ e, s.devices[i]? = some e ∧ e.ticket = some ticket) ∨ .requestFrame i ticket ∈ moves := by
  induction moves generalizing s with
  | nil => exact .inl ⟨d, get, waits⟩
  | cons m rest ih =>
    rcases ih get with ⟨e, get', waits'⟩ | mem
    · rcases device_of_move get' with ⟨f, before, rfl⟩ | ⟨spec, rfl⟩
      · rcases SimulatedDevice.ticket_move waits' with waited | rfl
        · exact .inl ⟨f, before, waited⟩
        · exact .inr List.mem_cons_self
      · cases waits'
    · exact .inr (List.mem_cons_of_mem _ mem)

/-- A request leaves its own ticket. -/
theorem along_leaves?_sublist (s : Simulator τ) (moves : List (SimulatorMove τ)) :
    (s.along leaves? moves).Sublist (moves.filterMap SimulatorMove.ticket?) := by
  induction moves generalizing s with
  | nil => exact List.nil_sublist _
  | cons m rest ih =>
    have own : (s.leaves? m).toList.Sublist m.ticket?.toList := by
      cases m with
      | requestFrame i ticket =>
        simp only [leaves?, SimulatorMove.ticket?]
        split <;> simp
      | _ => exact List.nil_sublist _
    rw [along, List.filterMap_eq_flatMap_toList, List.flatMap_cons,
      ← List.filterMap_eq_flatMap_toList]
    exact own.append (ih (s.move m))

/-! ## Frames -/

/-- A frame has all its bytes, or a third of them. -/
theorem size_frame (faults : SimulatorFaults) (id : Nat) (size : Size) :
    (frame faults id size).data.size =
      if faults.corruptFrames then (frame faults id size).needed / 3
      else (frame faults id size).needed := by
  cases corrupt : faults.corruptFrames <;>
    simp [frame, corrupt, Frame.needed]
  omega

/-- Frames are numbered in the order in which they are handed over. -/
theorem range_frames_move (s : Simulator τ) (m : SimulatorMove τ) :
    List.range (s.move m).frames =
      List.range s.frames ++ ((s.hands? m).map (·.2.id)).toList := by
  have still {t : Simulator τ} (same : t.frames = s.frames) :
      List.range t.frames = List.range s.frames ++ [] := by rw [same, List.append_nil]
  cases m with
  | setFaults => exact still rfl
  | acquire facing =>
    rcases s.acquire_refused_or_done facing with ⟨e, faults, eq⟩ | ⟨spec, -, -, eq⟩ <;>
      exact still (by simp only [Simulator.move, eq, Simulator.opened])
  | call i c =>
    refine still ?_
    simp only [Simulator.move, call]
    repeat' (first | rfl | split)
  | requestFrame i ticket =>
    refine still ?_
    simp only [Simulator.move, requestFrame]
    split <;> rfl
  | fire i =>
    simp only [Simulator.move, hands?, fire]
    repeat' split
    · exact still rfl
    · exact still rfl
    · exact still rfl
    · exact List.range_succ

/-! ## All tickets -/

/-- However tickets are left, previews started and stopped and devices released, and in whatever
order the frames that are due arrive: each ticket is handed back once, dropped, or waits. It is
handed back with a frame of the preview that runs then on its device, of just as many bytes as such
a frame takes, or a third of them. It is dropped when another one is left or the device is released,
and not handed back any more. As long as it waits for a preview that runs, a frame is due, which it
will get. Frames are numbered as they are handed over. -/
theorem one_shot (cameras : List CameraSpec) (moves : List (SimulatorMove τ))
    (own : (moves.filterMap SimulatorMove.ticket?).Nodup) :
    let s : Simulator τ := ofCameras cameras
    let t := s.run moves
    let handed := s.along hands? moves
    let dropped := s.along drops? moves
    let settled := handed.map (·.1) ++ dropped ++ t.tickets
    settled.Perm (s.along leaves? moves) ∧ settled.Nodup ∧
    (∀ ticket frame, (ticket, frame) ∈ handed → ∃ before i after d,
      moves = before ++ .fire i :: after ∧ .requestFrame i ticket ∈ before ∧
      (s.run before).devices[i]? = some d ∧ d.ticket = some ticket ∧
      d.released = false ∧ d.previewing = true ∧ 0 < d.due ∧
      frame.size = d.preview ∧ frame.format = .nv21 ∧
      (frame.needed < 2 ^ 64 → frame.expectedBytes.toNat = frame.needed) ∧
      frame.data.size =
        if (s.run before).faults.corruptFrames then frame.needed / 3 else frame.needed) ∧
    (∀ before m after i d ticket, moves = before ++ m :: after →
      (m = .call i .release ∨ ∃ other, m = .requestFrame i other) →
      (s.run before).devices[i]? = some d → d.ticket = some ticket →
      ticket ∈ dropped ∧ ticket ∉ handed.map (·.1) ∧ ticket ∉ t.tickets) ∧
    (∀ i d, t.devices[i]? = some d →
      (d.released = true → (t.fire i).1 = none) ∧
      ∀ ticket, d.ticket = some ticket → d.released = false ∧
        (d.previewing = true → 0 < d.due ∧ ∃ frame, (t.fire i).1 = some (ticket, frame))) ∧
    t.frames = handed.length ∧ handed.map (·.2.id) = List.range handed.length := by
  intro s t handed dropped settled
  have serves (moves : List (SimulatorMove τ)) : (s.run moves).Serves := serves_run cameras moves
  have accounted : settled.Perm (s.along leaves? moves) := (serves []).perm_tickets_run moves
  have single : settled.Nodup :=
    (accounted.nodup_iff).2 (own.sublist (s.along_leaves?_sublist moves))
  have numbered : List.range t.frames = handed.map (·.2.id) := by
    rw [map_along, ← List.nil_append (along _ s moves)]
    exact run_grows (f := fun s => List.range s.frames) range_frames_move s moves
  have count : t.frames = handed.length := by
    simpa using congrArg List.length numbered
  refine ⟨accounted, single, fun ticket frame mem => ?_,
    fun before m after i d ticket eq ends get waits => ?_, fun i d get => ⟨fun gone => ?_, ?_⟩,
    count, by rw [← numbered, count]⟩
  · obtain ⟨before, m, after, eq, seen⟩ := mem_along_iff.1 mem
    cases m with
    | fire i =>
      obtain ⟨d, get, waits, open_, runs, due, rfl⟩ := (serves before).handed seen
      have requested : .requestFrame i ticket ∈ before := by
        rcases requested_of_waits get waits with ⟨e, before_, -⟩ | requested
        · cases before_
        · exact requested
      refine ⟨before, i, after, d, eq, requested, get, waits, open_, runs, due, rfl, rfl,
        fun held => ?_, size_frame _ _ _⟩
      rw [Frame.expectedBytes_eq_mod, Nat.mod_eq_of_lt held]
    | _ => cases seen
  · have mem : ticket ∈ dropped := by
      refine mem_along_iff.2 ⟨before, m, after, eq, ?_⟩
      rcases ends with rfl | ⟨other, rfl⟩ <;> simp [drops?, get, waits]
    -- what is dropped is neither handed back nor left over, since nothing is listed twice
    obtain ⟨front, -, apart⟩ := List.nodup_append.1 single
    obtain ⟨-, -, apart'⟩ := List.nodup_append.1 front
    exact ⟨mem, fun handed => apart' _ handed _ mem rfl,
      fun left => apart _ (List.mem_append_right _ mem) _ left rfl⟩
  · simp [(fire_eq get).1, gone]
  · intro ticket waits
    obtain ⟨open_, due⟩ := serves moves d (List.mem_of_getElem? get) (by simp [waits])
    refine ⟨open_, fun runs => ⟨due runs, frame t.faults t.frames d.preview, ?_⟩⟩
    simp [(fire_eq get).1, open_, runs, waits]

/-- A camera with two small preview sizes. -/
def small : CameraSpec :=
  { CameraSpec.phone .back 90 with
    capabilities := ⟨[⟨2, 2⟩, ⟨4, 2⟩], 0, 0, []⟩
    defaultPreview := ⟨2, 2⟩ }

/-- A ticket makes way for another. Of the two frames that are due by then the first finds the
preview stopped, but the restart brings one more, so that the last of the three comes in vain. -/
def race : List (SimulatorMove Nat) :=
  [.acquire .back, .call 0 .startPreview, .requestFrame 0 5, .requestFrame 0 6,
    .call 0 .stopPreview, .fire 0, .call 0 .startPreview, .call 0 (.setPreviewSize ⟨4, 2⟩), .fire 0,
    .fire 0, .setFaults { corruptFrames := true }, .requestFrame 0 7, .fire 0, .requestFrame 0 8,
    .call 0 .release, .fire 0]

theorem one_shot_race :
    let s : Simulator Nat := ofCameras [small]
    let handed := s.along hands? race
    handed.map (fun h => (h.1, h.2.data.size)) = [(6, 12), (7, 4)] ∧
      (s.run race).frames = 2 ∧ handed.map (·.2.id) = [0, 1] ∧
      (∀ ticket ∈ [5, 8], ticket ∉ handed.map (·.1) ∧ ticket ∉ (s.run race).tickets) := by
  intro s handed
  obtain ⟨-, -, -, lost, -, count, numbered⟩ := one_shot [small] race (by decide)
  have handed_eq : handed.map (fun h => (h.1, h.2.data.size)) = [(6, 12), (7, 4)] := by
    decide +kernel
  have two : handed.length = 2 := by simpa using congrArg List.length handed_eq
  refine ⟨handed_eq, count.trans two, numbered.trans (by rw [two]; rfl), ?_⟩
  intro ticket mem
  rcases List.mem_pair.1 mem with rfl | rfl
  · exact (lost (race.take 3) _ (race.drop 4) 0 _ 5 rfl (.inr ⟨6, rfl⟩) rfl rfl).2
  · exact (lost (race.take 14) _ (race.drop 15) 0 _ 8 rfl (.inl rfl) rfl rfl).2

end Viewfinder.Simulator
