import Viewfinder.Proofs.Tuning

/-!
# One rotation at a time

What only the calls to the open device change, and what those that turn it lead from one orientation
to the next, is led to the orientation of the open camera whatever the executor does (`Leads`). A
device has two dials, one for the rotation of its preview and one for that of its frames, and the
hardware can refuse to turn one of them. Each dial of the open camera stands where it should, or
will when the calls that are left have been made, as long as no call for it is refused (`Settles`).
-/

namespace Viewfinder

inductive Dial where
  | display
  | output
deriving DecidableEq, Repr

namespace Dial

/-- The dial among both rotations. -/
def read : Dial → UInt32 × UInt32 → UInt32
  | display => Prod.fst
  | output => Prod.snd

/-- Where the dial stands after a call that is not refused. -/
def turns : Dial → DeviceCall → UInt32 → UInt32
  | display, .setDisplayRotation degrees, _ => degrees
  | output, .setOutputRotation degrees, _ => degrees
  | _, _, current => current

variable {dial : Dial}

theorem read_rotates (dial : Dial) (c : DeviceCall) (rotations : UInt32 × UInt32) :
    dial.read (c.rotates rotations) = dial.turns c (dial.read rotations) := by
  cases dial <;> cases c <;> rfl

/-- Both dials tell both rotations. -/
theorem ext_read {a b : UInt32 × UInt32} (same : ∀ dial : Dial, dial.read a = dial.read b) :
    a = b :=
  Prod.ext (same .display) (same .output)

/-- What leads both dials to where they should stand leads each of them there. -/
theorem aims {steps : List NativeStep} {goal before : UInt32 × UInt32} (dial : Dial)
    (h : Aims DeviceCall.rotates (· = goal) steps before) :
    Aims dial.turns (· = dial.read goal) steps (dial.read before) := by
  induction steps generalizing before with
  | nil => exact congrArg dial.read h
  | cons step rest ih =>
    obtain ⟨leads, cut⟩ := h
    refine ⟨?_, fun abort => (cut abort).imp_right fun met => ?_⟩
    · rw [← dial.read_rotates]
      exact ih leads
    · rw [← dial.read_rotates]
      exact congrArg dial.read met

theorem spares {steps : List NativeStep} (dial : Dial) (h : Spares DeviceCall.rotates steps) :
    Spares dial.turns steps := by
  intro step mem a
  have same : dial.read (a, a) = a := by cases dial <;> rfl
  rw [← same, ← dial.read_rotates, h step mem]

/-- Steps that lead each dial where it should stand lead both there. -/
theorem aims_both {steps : List NativeStep} {goal before : UInt32 × UInt32}
    (h : ∀ dial : Dial, Aims dial.turns (· = dial.read goal) steps (dial.read before)) :
    Aims DeviceCall.rotates (· = goal) steps before := by
  induction steps generalizing before with
  | nil => exact ext_read h
  | cons step rest ih =>
    refine ⟨ih fun dial => ?_, fun abort => ?_⟩
    · rw [dial.read_rotates]
      exact (h dial).1
    · by_cases sure : step.call.sure = true
      · exact .inl sure
      · refine .inr (ext_read fun dial => ?_)
        rw [dial.read_rotates]
        exact ((h dial).2 abort).resolve_left sure

end Dial

/-- A value follows the orientation of a device: `effect` is what a call makes of it, `goal` whether
it is as an orientation asks. Calls that turn nothing leave it alone, and a turn leads it on. -/
structure Follows {α : Type} (effect : DeviceCall → α → α) (goal : Orientation → α → Prop) :
    Prop where
  spares : ∀ {steps}, Spares DeviceCall.rotates steps → Spares effect steps
  turn : ∀ {device o o' a}, goal o a → Aims effect (goal o')
    (Routine.turn device (o.display != o'.display) (o.output != o'.output) o').steps a

theorem Follows.same {α : Type} {effect : DeviceCall → α → α} {goal : Orientation → α → Prop}
    (h : Follows effect goal) {o o' : Orientation} (same : o.rotations = o'.rotations) {a : α}
    (met : goal o a) : goal o' a := by
  obtain ⟨display, output⟩ := Prod.ext_iff.1 same
  simp only [Orientation.rotations] at display output
  have aims : Aims effect (goal o')
      (Routine.turn 0 (o.display != o'.display) (o.output != o'.output) o').steps a := h.turn met
  simpa [Routine.turn, display, output, Aims] using aims

theorem Dial.follows (dial : Dial) :
    Follows dial.turns fun o a => a = dial.read o.rotations where
  spares := dial.spares
  turn := by
    rintro device o o' a rfl
    exact dial.aims (Routine.turn_aims device o' o.display o.output)

namespace CameraSystem

variable {s t : CameraSystem (Simulator Ticket)} {held : Option Nat}

section

variable {α : Type} {effect : DeviceCall → α → α} {goal : Orientation → α → Prop}
  {stands stands' : OpenCamera → α → Prop}

/-- What stands for the camera that the executor works for is as its orientation asks, or will be
when the calls that are left have been made. -/
def Leads (s : CameraSystem (Simulator Ticket)) (effect : DeviceCall → α → α)
    (goal : Orientation → α → Prop) (stands : OpenCamera → α → Prop) : Prop :=
  ∀ camera a, s.engaged? = some camera → stands camera a →
    Aims effect (goal (s.resolveOrientation camera.sensor)) s.executor.stage.steps a

theorem leads_of_engaged (engaged : s.engaged? = none) : s.Leads effect goal stands := by
  intro camera a open_
  cases engaged.symm.trans open_

theorem Leads.imp (h : s.Leads effect goal stands)
    (trust : ∀ camera a, s.engaged? = some camera → stands' camera a → stands camera a) :
    s.Leads effect goal stands' :=
  fun camera a open_ stood => h camera a open_ (trust camera a open_ stood)

/-- The calls that are left are others, but none of them turns the device. -/
theorem Leads.of_spares (h : s.Leads effect goal stands) (follows : Follows effect goal)
    (steps : s.executor.stage.steps = []) (engaged : t.engaged? = s.engaged?)
    (turn : t.executor.turn = s.executor.turn) (angle : t.executor.angle = s.executor.angle)
    (spares : Spares DeviceCall.rotates t.executor.stage.steps) : t.Leads effect goal stands := by
  intro camera a open_ stood
  have aims := h camera a (engaged ▸ open_) stood
  rw [steps] at aims
  rw [resolveOrientation, turn, angle]
  exact (follows.spares spares).aims aims

theorem Leads.of_idle (h : s.Leads effect goal stands) (follows : Follows effect goal)
    (idle : s.executor.stage = .idle) (still : t.executor.stage = .idle) (slot : t.slot = s.slot)
    (turn : t.executor.turn = s.executor.turn) (angle : t.executor.angle = s.executor.angle) :
    t.Leads effect goal stands := by
  refine h.of_spares follows (by rw [idle]; rfl) ?_ turn angle (by rw [still]; exact spares_nil)
  rw [engaged?_of_idle still, engaged?_of_idle idle, slot]

/-- Between two commands what stands for an open camera is as its orientation asks. -/
theorem Leads.met (h : s.Leads effect goal stands) (oriented : s.Oriented)
    (idle : s.executor.stage = .idle) {camera : OpenCamera} {a : α} (slot : s.slot = some camera)
    (stood : stands camera a) : ∃ o, s.orientation = some o ∧ goal o a := by
  have aims := h camera a ((engaged?_of_idle idle).trans slot) stood
  rw [idle] at aims
  exact ⟨_, oriented.opened camera slot, aims⟩

/-- A camera that is held another way is set to what follows from it. -/
theorem leads_refreshOrientation (follows : Follows effect goal) (idle : s.executor.stage = .idle)
    (met : ∀ camera a, s.slot = some camera → stands camera a →
      ∃ o, s.orientation = some o ∧ goal o a) :
    s.refreshOrientation.Leads effect goal stands := by
  rcases s.refreshOrientation_cases with ⟨slot, eq⟩ | ⟨camera, slot, ⟨same, eq⟩ | ⟨-, eq⟩⟩
  all_goals rw [eq]
  · exact leads_of_engaged ((engaged?_of_idle idle).trans slot)
  · intro other a open_ stood
    obtain rfl : camera = other := Option.some.inj
      (slot.symm.trans ((engaged?_of_idle (s := { s with orientation := _ }) idle).symm.trans open_))
    obtain ⟨o, orientation, told⟩ := met camera a slot stood
    rw [orientation] at same
    show Aims _ _ s.executor.stage.steps a
    rw [idle]
    exact follows.same (Option.some.inj same) told
  · intro other a open_ stood
    obtain rfl : camera = other := Option.some.inj (slot.symm.trans open_)
    obtain ⟨o, orientation, told⟩ := met camera a slot stood
    rw [orientation]
    exact follows.turn told

theorem Leads.execute (h : s.Leads effect goal stands) (follows : Follows effect goal)
    (oriented : s.Oriented) (idle : s.executor.stage = .idle) (c : Command) :
    (s.execute c).Leads effect goal stands := by
  have steps : s.executor.stage.steps = [] := by rw [idle]; rfl
  have met (camera : OpenCamera) (a : α) (slot : s.slot = some camera) (stood : stands camera a) :
      ∃ o, s.orientation = some o ∧ goal o a := h.met oriented idle slot stood
  cases c with
  | openCamera facing request =>
    simp only [CameraSystem.execute]
    split
    · exact h
    · next unopened =>
      have slot : s.slot = none := by simpa using unopened
      exact leads_of_engaged slot
  | closeCamera =>
    simp only [CameraSystem.execute, beginClose]
    split
    · next slot => exact leads_of_engaged slot
    · exact leads_of_engaged rfl
  | configurePreview session =>
    rw [CameraSystem.execute]
    rcases s.configurePreview_cases session with
      ⟨-, eq⟩ | ⟨camera, slot, -, ⟨-, eq⟩ | ⟨size, -, ⟨-, eq⟩ | ⟨-, eq⟩⟩⟩
    all_goals rw [eq]
    · exact h
    · exact h
    · unfold announce
      split
      · exact h
      · exact h.of_idle follows idle idle rfl rfl rfl
    · exact h.of_spares follows steps (engaged?_of_idle idle).symm rfl rfl
        (Routine.resize_spares_rotations _ _ _)
  | turnDevice turn => exact leads_refreshOrientation follows idle met
  | tiltDevice angle => exact leads_refreshOrientation follows idle met
  | applyFocus =>
    rw [CameraSystem.execute]
    obtain ⟨tap, eq | ⟨camera, -, eq | ⟨request, eq⟩⟩⟩ := s.applyFocus_cases
    all_goals rw [eq]
    · exact h.of_idle follows idle idle rfl rfl rfl
    · exact h.of_spares follows steps (engaged?_of_idle idle).symm rfl rfl spares_nil
    · exact h.of_spares follows steps (engaged?_of_idle idle).symm rfl rfl
        (Routine.focus_spares _ _ _ []).2
  | barrier => exact h.of_idle follows idle idle rfl rfl rfl

/-- A step of the executor: what stands is changed by the call that is made, and by no other step,
and what stands for a device that was opened just now can be led anywhere. -/
theorem Leads.of_turn (h : s.Leads effect goal stands) (follows : Follows effect goal)
    (tuned : s.Tuned) (turn : Turn s t)
    (kept : t.service = s.service → s.executor.stage.steps = [] →
      ∀ camera a, s.engaged? = some camera → stands' camera a → stands camera a)
    (called : ∀ routine next step rest, s.executor.stage = .native routine next →
      routine.steps = step :: rest → t.service = (routine.perform s.service).2 →
      ∀ camera a', s.engaged? = some camera → stands' camera a' →
        ∃ a, stands camera a ∧ effect step.call a = a')
    (opened : ∀ camera a capabilities o, camera.device = s.service.devices.length →
      stands' camera a →
      Aims effect (goal o) (Routine.configure camera.device capabilities o).steps a) :
    t.Leads effect goal stands' := by
  obtain ⟨held, secured⟩ := tuned.sound.secured
  cases turn with
  | take c rest idle queue =>
    have kept := kept (service_execute { s with queue := rest } c) (by rw [idle]; rfl)
    exact Leads.execute (s := { s with queue := rest })
      ((h.imp kept).of_idle follows idle idle rfl rfl rfl) follows
      (tuned.oriented.of_same rfl rfl rfl rfl rfl (.inr rfl)) idle c
  | finish idle queue unsent =>
    unfold beginClose
    split
    · next slot => exact leads_of_engaged slot
    · exact leads_of_engaged rfl
  | missing facing request stage absent | refused facing request stage present =>
    obtain ⟨slot, -⟩ := secured.of_opening stage
    rw [failOpen, withdraw_eq]
    exact leads_of_engaged slot
  | acquired facing request spec capabilities o stage present reported resolved =>
    rintro camera a ⟨⟩ stood
    subst resolved
    exact opened _ a _ _ rfl stood
  | called routine next step rest stage steps =>
    have holds := secured.holds
    rw [secured.of_native stage steps] at holds
    intro camera a' open_ after
    have engaged : s.engaged? = some camera := by
      rw [engaged?, stage]
      cases next <;> exact open_
    obtain ⟨a, stood, rfl⟩ := called routine next step rest stage steps rfl camera a' engaged after
    have aims := h camera a engaged stood
    rw [stage] at aims
    exact aims.perform holds steps
  | installed routine facing request camera o stage steps =>
    have kept := kept rfl (by rw [stage]; exact steps)
    refine (h.imp kept).of_spares follows (by rw [stage]; exact steps) ?_ rfl rfl spares_nil
    rw [engaged?, engaged?, stage]
    rfl
  | forgotten routine facing last stage steps =>
    refine leads_of_engaged ?_
    cases last <;> exact (secured.of_closing stage).1
  | worked routine next works stage steps =>
    have returned := s.resume_returned routine works
    have kept := kept returned.service (by rw [stage]; exact steps)
    refine (h.imp kept).of_spares follows (by rw [stage]; exact steps) ?_ returned.turn
      returned.angle (by rw [returned.idle]; exact spares_nil)
    rw [engaged?_of_idle returned.idle, returned.slot, engaged?_of_works stage works]

/-- A move of anybody else leaves the executor alone. -/
theorem Leads.of_other (h : s.Leads effect goal stands) {m : Move} (other : m ≠ .task .executor)
    (kept : ∀ camera a, stands' camera a → stands camera a) :
    (s.move m).Leads effect goal stands' := by
  have same := undisturbed_move (s := s) other
  intro camera a open_ stood
  rw [engaged?, same.executor, same.slot] at open_
  rw [resolveOrientation, same.executor]
  exact h camera a open_ (kept camera a stood)

end

variable {dial : Dial} {trusted later : OpenCamera → Prop}

/-- The dial of the device that was opened last is set for the camera that the executor works for,
if the device of that camera is trusted to have taken every call. -/
def Settles (s : CameraSystem (Simulator Ticket)) (dial : Dial) (trusted : OpenCamera → Prop) :
    Prop :=
  ∀ camera f, s.engaged? = some camera → s.service.last? = some f → trusted camera →
    Aims dial.turns (· = dial.read (s.resolveOrientation camera.sensor).rotations)
      s.executor.stage.steps (dial.read f.rotations)

/-- The next call, if there is one to make, is not refused to the dial. -/
def Heeds (s : CameraSystem (Simulator Ticket)) (dial : Dial) : Prop :=
  ∀ routine next step rest d, s.executor.stage = .native routine next →
    routine.steps = step :: rest → s.service.devices[routine.device]? = some d →
    dial.read (d.call s.service.faults step.call).2.fitting.rotations =
      dial.turns step.call (dial.read d.fitting.rotations)

/-- The dial as something that follows the orientation. -/
theorem settles_iff_leads : s.Settles dial trusted ↔
    s.Leads dial.turns (fun o a => a = dial.read o.rotations) fun camera a =>
      trusted camera ∧ ∃ f, s.service.last? = some f ∧ dial.read f.rotations = a := by
  constructor
  · rintro h camera a open_ ⟨trusts, f, last, rfl⟩
    exact h camera f open_ last trusts
  · intro h camera f open_ last trusts
    exact h camera _ open_ ⟨trusts, f, last, rfl⟩

theorem settles_of_engaged (engaged : s.engaged? = none) : s.Settles dial trusted :=
  settles_iff_leads.2 (leads_of_engaged engaged)

theorem Settles.imp (h : s.Settles dial trusted)
    (trust : ∀ camera, s.engaged? = some camera → later camera → trusted camera) :
    s.Settles dial later :=
  fun camera f open_ last trusts => h camera f open_ last (trust camera open_ trusts)

theorem Settles.of_idle (h : s.Settles dial trusted) (idle : s.executor.stage = .idle)
    (still : t.executor.stage = .idle) (service : t.service = s.service) (slot : t.slot = s.slot)
    (turn : t.executor.turn = s.executor.turn) (angle : t.executor.angle = s.executor.angle) :
    t.Settles dial trusted := by
  refine settles_iff_leads.2 ?_
  rw [service]
  exact (settles_iff_leads.1 h).of_idle dial.follows idle still slot turn angle

/-- Between two commands the dial of an open device stands where it is told to. -/
theorem Settles.read (h : s.Settles dial trusted) (oriented : s.Oriented)
    (idle : s.executor.stage = .idle) {camera : OpenCamera} {f : Fitting}
    (slot : s.slot = some camera) (last : s.service.last? = some f) (trusts : trusted camera) :
    dial.read f.rotations = dial.read (s.resolveOrientation camera.sensor).rotations ∧
      s.orientation = some (s.resolveOrientation camera.sensor) := by
  have aims := h camera f ((engaged?_of_idle idle).trans slot) last trusts
  rw [idle] at aims
  exact ⟨aims, oriented.opened camera slot⟩

theorem Settles.of_turn (h : s.Settles dial trusted) (tuned : s.Tuned)
    (heeds : ∀ camera, s.engaged? = some camera → trusted camera → s.Heeds dial)
    (turn : Turn s t) : t.Settles dial trusted := by
  obtain ⟨held, secured⟩ := tuned.sound.secured
  refine settles_iff_leads.2
    ((settles_iff_leads.1 h).of_turn dial.follows tuned turn ?_ ?_ ?_)
  · intro service _ camera a _ ⟨trusts, f, last, eq⟩
    exact ⟨trusts, f, service ▸ last, eq⟩
  · rintro routine next step rest stage steps service camera a' engaged ⟨trusts, f, last, rfl⟩
    have holds := secured.holds
    rw [secured.of_native stage steps] at holds
    obtain ⟨d, get, -, before, after⟩ := holds.call_last? tuned.sized.newest step.call
    have made : t.service.last? = some (d.call s.service.faults step.call).2.fitting := by
      rw [service, service_perform steps]
      exact after
    cases made.symm.trans last
    exact ⟨_, ⟨trusts, d.fitting, before, rfl⟩,
      (heeds camera engaged trusts routine next step rest d stage steps get).symm⟩
  · rintro camera a capabilities o - ⟨-, f, -, rfl⟩
    exact dial.aims (Routine.configure_aims _ _ _ _)

theorem Settles.move (h : s.Settles dial trusted) (tuned : s.Tuned) {m : Move}
    (enabled : s.enabled m = true)
    (heeds : m = .task .executor →
      ∀ camera, s.engaged? = some camera → trusted camera → s.Heeds dial) :
    (s.move m).Settles dial trusted := by
  by_cases own : m = .task .executor
  · subst own
    obtain ⟨held, secured⟩ := tuned.sound.secured
    exact h.of_turn tuned (heeds rfl) (secured.turn enabled)
  · refine settles_iff_leads.2 ((settles_iff_leads.1 h).of_other own ?_)
    rw [last?_move own]
    exact fun _ _ stood => stood

end CameraSystem

end Viewfinder
