import Mathlib.Data.List.Induction
import Viewfinder.Preview.Negotiation

/-!
# What a negotiation chooses

One pass over a list keeps the first of the sizes that come nearest to a height, whatever sizes it
passes over (`FirstNearest`, the invariant of the pass). A negotiation makes that pass over the
sizes that have the viewport's aspect, and over all sizes where none has it: those are the sizes
that contend.
-/

namespace Viewfinder.Preview

variable {fits : Size → Prop} {wanted : UInt32} {offered more : List Size} {i j : Nat}
  {size other : Size} {viewport : Size} {tolerance : Double}

/-- How far the height of a size is from a wanted one. -/
def distance (wanted : UInt32) (size : Size) : Nat :=
  ((size.height.toNat : Int) - wanted.toNat).natAbs

theorem heightGap_eq (wanted : UInt32) (size : Size) :
    heightGap wanted size = distance wanted size := by
  unfold heightGap distance
  omega

/-- `size` is offered at `i`, `fits`, is as near to the wanted height as any that does, and none
that does is as near and offered before. -/
structure FirstNearest (fits : Size → Prop) (wanted : UInt32) (offered : List Size) (i : Nat)
    (size : Size) : Prop where
  get : offered[i]? = some size
  fit : fits size
  nearest : ∀ other ∈ offered, fits other → distance wanted size ≤ distance wanted other
  first : ∀ j < i, ∀ other, offered[j]? = some other → fits other →
    distance wanted other ≠ distance wanted size

namespace FirstNearest

theorem lt (h : FirstNearest fits wanted offered i size) : i < offered.length :=
  (List.getElem?_eq_some_iff.1 h.get).1

theorem mem (h : FirstNearest fits wanted offered i size) : size ∈ offered :=
  List.mem_of_getElem? h.get

theorem congr {fits' : Size → Prop} (same : ∀ size, fits size ↔ fits' size)
    (h : FirstNearest fits wanted offered i size) : FirstNearest fits' wanted offered i size where
  get := h.get
  fit := (same size).1 h.fit
  nearest other mem fit := h.nearest other mem ((same other).2 fit)
  first j before other get fit := h.first j before other get ((same other).2 fit)

/-- Sizes that are offered later have to be nearer to be chosen. -/
theorem append (h : FirstNearest fits wanted offered i size)
    (farther : ∀ late ∈ more, fits late → distance wanted size ≤ distance wanted late) :
    FirstNearest fits wanted (offered ++ more) i size where
  get := by rw [List.getElem?_append_left h.lt, h.get]
  fit := h.fit
  nearest other mem fit := by
    rcases List.mem_append.1 mem with early | late
    · exact h.nearest other early fit
    · exact farther other late fit
  first j before other get fit := by
    rw [List.getElem?_append_left (Nat.lt_trans before h.lt)] at get
    exact h.first j before other get fit

/-- A last size that is nearer than all before it is chosen. -/
theorem concat (fit : fits size)
    (nearer : ∀ other ∈ offered, fits other → distance wanted size < distance wanted other) :
    FirstNearest fits wanted (offered ++ [size]) offered.length size where
  get := by simp
  fit := fit
  nearest other mem fit := by
    rcases List.mem_append.1 mem with early | last
    · exact Nat.le_of_lt (nearer other early fit)
    · exact List.mem_singleton.1 last ▸ Nat.le_refl _
  first j before other get fit := by
    rw [List.getElem?_append_left before] at get
    exact Nat.ne_of_gt (nearer other (List.mem_of_getElem? get) fit)

end FirstNearest

theorem closestHeight?_concat (wanted : UInt32) (sizes : List Size) (size : Size) :
    closestHeight? wanted (sizes ++ [size]) =
      match closestHeight? wanted sizes with
      | none => some size
      | some best =>
        if distance wanted size < distance wanted best then some size else some best := by
  simp only [← heightGap_eq]
  exact List.foldl_append

/-- The pass over the sizes that fit, seen from the whole list. The induction is on the size that
is passed last, as the pass keeps the best of those before it. -/
theorem closestHeight?_filter (fits : Size → Bool) (wanted : UInt32) (offered : List Size) :
    (∀ other ∈ offered, fits other = false) ∧ closestHeight? wanted (offered.filter fits) = none ∨
      ∃ i size, closestHeight? wanted (offered.filter fits) = some size ∧
        FirstNearest (fits · = true) wanted offered i size := by
  induction offered using List.reverseRecOn with
  | nil => exact .inl ⟨by simp, rfl⟩
  | append_singleton before last ih =>
    rw [List.filter_append]
    cases fit : fits last with
    | false =>
      rw [List.filter_cons_of_neg (by simp [fit]), List.filter_nil, List.append_nil]
      rcases ih with ⟨none_, empty⟩ | ⟨i, size, chosen, first⟩
      · refine .inl ⟨fun other mem => ?_, empty⟩
        rcases List.mem_append.1 mem with early | last_
        · exact none_ other early
        · rwa [List.mem_singleton.1 last_]
      · refine .inr ⟨i, size, chosen, first.append fun late mem fits => ?_⟩
        rw [List.mem_singleton.1 mem, fit] at fits
        cases fits
    | true =>
      rw [List.filter_cons_of_pos fit, List.filter_nil, closestHeight?_concat]
      refine .inr ?_
      rcases ih with ⟨none_, empty⟩ | ⟨i, size, chosen, first⟩
      · rw [empty]
        refine ⟨_, last, rfl, .concat fit fun other mem fits => ?_⟩
        rw [none_ other mem] at fits
        cases fits
      · rw [chosen]
        by_cases nearer : distance wanted last < distance wanted size
        · exact ⟨_, last, if_pos nearer, .concat fit fun other mem fits =>
            Nat.lt_of_lt_of_le nearer (first.nearest other mem fits)⟩
        · refine ⟨i, size, if_neg nearer, first.append fun late mem _ => ?_⟩
          rw [List.mem_singleton.1 mem]
          exact Nat.le_of_not_lt nearer

/-- A size with some height whose aspect on its side is the viewport's, up to `tolerance`. -/
def Candidate (viewport : Size) (tolerance : Double) (size : Size) : Prop :=
  size.height ≠ 0 ∧
    (ratio size.width size.height - ratio viewport.height viewport.width).abs ≤ tolerance

theorem fitsAspect_iff : fitsAspect viewport tolerance size = true ↔
    Candidate viewport tolerance size := by
  simp [fitsAspect, Candidate]

/-- The class that the choice is made in: the candidates, or every size if none that is offered is
a candidate. -/
def Contends (viewport : Size) (tolerance : Double) (offered : List Size) (size : Size) : Prop :=
  Candidate viewport tolerance size ∨ ∀ other ∈ offered, ¬Candidate viewport tolerance other

/-- The class stays the same unless the first candidate is among what is added. -/
theorem contends_append (known : ∀ late ∈ more, Candidate viewport tolerance late →
      ∃ early ∈ offered, Candidate viewport tolerance early) :
    Contends viewport tolerance (offered ++ more) size ↔
      Contends viewport tolerance offered size := by
  refine or_congr_right ⟨fun unfit other mem => unfit other (List.mem_append_left _ mem),
    fun unfit other mem fit => ?_⟩
  rcases List.mem_append.1 mem with early | late
  · exact unfit other early fit
  · obtain ⟨early, mem, fit⟩ := known other late fit
    exact unfit early mem fit

theorem negotiate?_of_invisible (invisible : viewport.isEmpty = true) :
    negotiate? offered viewport tolerance = none := by
  simp [negotiate?, invisible]

/-- A viewport that has some extent gets the first of the nearest that contend. -/
theorem negotiate?_nearest (offered : List Size) (tolerance : Double)
    (visible : viewport.isEmpty = false) :
    offered = [] ∧ negotiate? offered viewport tolerance = none ∨
      ∃ i size, negotiate? offered viewport tolerance = some size ∧
        FirstNearest (Contends viewport tolerance offered) viewport.height offered i size := by
  simp only [negotiate?, visible, Bool.false_eq_true, if_false]
  rcases closestHeight?_filter (fitsAspect viewport tolerance) viewport.height offered with
    ⟨none_, empty⟩ | ⟨i, size, chosen, first⟩
  · have unfit (other : Size) (mem : other ∈ offered) : ¬Candidate viewport tolerance other := by
      rw [← fitsAspect_iff, none_ other mem]
      exact Bool.false_ne_true
    rw [empty]
    -- the same pass, over all sizes
    have second := closestHeight?_filter (fun _ => true) viewport.height offered
    rw [List.filter_eq_self.2 fun _ _ => rfl] at second
    rcases second with ⟨none_, empty⟩ | ⟨i, size, chosen, first⟩
    · refine .inl ⟨List.eq_nil_iff_forall_not_mem.2 fun other mem => ?_, empty⟩
      cases none_ other mem
    · exact .inr ⟨i, size, chosen, first.congr fun _ => ⟨fun _ => .inr unfit, fun _ => rfl⟩⟩
  · rw [chosen]
    refine .inr ⟨i, size, rfl, first.congr fun other => fitsAspect_iff.trans ⟨.inl, ?_⟩⟩
    rintro (fit | unfit)
    · exact fit
    · exact absurd (fitsAspect_iff.1 first.fit) (unfit size first.mem)

theorem negotiate?_eq_none_iff : negotiate? offered viewport tolerance = none ↔
    offered = [] ∨ viewport.isEmpty = true := by
  cases visible : viewport.isEmpty with
  | true => simp [negotiate?_of_invisible visible]
  | false =>
    rcases negotiate?_nearest offered tolerance visible with
      ⟨rfl, none_⟩ | ⟨i, size, chosen, first⟩
    · simp [none_]
    · simp [chosen, List.ne_nil_of_mem first.mem]

/-- Among equals in height the order of the offer decides, so only one place can be chosen. -/
theorem FirstNearest.unique (h : FirstNearest fits wanted offered i size)
    (h' : FirstNearest fits wanted offered j other) : i = j ∧ size = other := by
  have equal : distance wanted size = distance wanted other :=
    Nat.le_antisymm (h.nearest other h'.mem h'.fit) (h'.nearest size h.mem h.fit)
  rcases Nat.lt_trichotomy i j with before | rfl | after
  · exact absurd equal (h'.first i before size h.get h.fit)
  · exact ⟨rfl, Option.some.inj (h.get.symm.trans h'.get)⟩
  · exact absurd equal.symm (h.first j after other h'.get h'.fit)

theorem negotiate?_eq_some_iff (visible : viewport.isEmpty = false) :
    negotiate? offered viewport tolerance = some size ↔
      ∃ i, FirstNearest (Contends viewport tolerance offered) viewport.height offered i size := by
  rcases negotiate?_nearest offered tolerance visible with
    ⟨rfl, none_⟩ | ⟨i, found, chosen, first⟩
  · rw [none_]
    refine ⟨nofun, fun ⟨i, first⟩ => ?_⟩
    cases first.mem
  · rw [chosen]
    constructor
    · rintro ⟨⟩
      exact ⟨i, first⟩
    · rintro ⟨j, other⟩
      rw [(first.unique other).2]

/-- Sizes offered later change nothing exactly when each of them that contends in the longer offer
is no nearer than one that was there before and contends as well. -/
theorem negotiate?_append_iff (visible : viewport.isEmpty = false) :
    negotiate? (offered ++ more) viewport tolerance = negotiate? offered viewport tolerance ↔
      ∀ late ∈ more, Contends viewport tolerance (offered ++ more) late →
        ∃ early ∈ offered, Contends viewport tolerance (offered ++ more) early ∧
          distance viewport.height early ≤ distance viewport.height late := by
  constructor
  · intro same late mem contends
    rcases negotiate?_nearest offered tolerance visible with
      ⟨rfl, none_⟩ | ⟨i, size, chosen, first⟩
    · rw [none_, negotiate?_eq_none_iff, visible] at same
      rcases same with empty | ⟨⟨⟩⟩
      rw [List.nil_append] at empty
      rw [empty] at mem
      cases mem
    · rw [chosen, negotiate?_eq_some_iff visible] at same
      obtain ⟨j, second⟩ := same
      exact ⟨size, first.mem, second.fit,
        second.nearest late (List.mem_append_right _ mem) contends⟩
  · intro farther
    rcases negotiate?_nearest offered tolerance visible with
      ⟨rfl, none_⟩ | ⟨i, size, chosen, first⟩
    · rw [none_]
      rcases negotiate?_nearest ([] ++ more) tolerance visible with
        ⟨-, none_⟩ | ⟨j, size, -, first⟩
      · exact none_
      · obtain ⟨early, mem, -⟩ := farther size first.mem first.fit
        cases mem
    · have class_ (other : Size) : Contends viewport tolerance offered other ↔
          Contends viewport tolerance (offered ++ more) other := by
        refine (contends_append fun late mem fit => ?_).symm
        obtain ⟨early, mem', fit' | unfit, -⟩ := farther late mem (.inl fit)
        · exact ⟨early, mem', fit'⟩
        · exact absurd fit (unfit late (List.mem_append_right _ mem))
      rw [chosen, negotiate?_eq_some_iff visible]
      refine ⟨i, (first.congr class_).append fun late mem contends => ?_⟩
      obtain ⟨early, mem', contends', near⟩ := farther late mem contends
      exact Nat.le_trans (first.nearest early mem' ((class_ early).2 contends')) near

/-- A negotiation gives nothing exactly for no offer or a viewport without extent. Else it gives
the first of the sizes that are nearest in height, among the candidates if there are some and among
all sizes if not; and what is offered beside them and is not nearer within the class that wins does
not matter. The tolerance may be any number, infinite or none. -/
theorem negotiate?_optimal (offered : List Size) (viewport : Size) (tolerance : Double) :
    (negotiate? offered viewport tolerance = none ↔
      offered = [] ∨ viewport.width = 0 ∨ viewport.height = 0) ∧
    (∀ size, negotiate? offered viewport tolerance = some size →
      ∃ i, FirstNearest (Contends viewport tolerance offered) viewport.height offered i size) ∧
    ∀ more, (∀ late ∈ more, Contends viewport tolerance (offered ++ more) late →
        ∃ early ∈ offered, Contends viewport tolerance (offered ++ more) early ∧
          distance viewport.height early ≤ distance viewport.height late) →
      negotiate? (offered ++ more) viewport tolerance = negotiate? offered viewport tolerance := by
  refine ⟨?_, fun size chosen => ?_, fun more farther => ?_⟩
  · simp [negotiate?_eq_none_iff, Size.isEmpty]
  · cases visible : viewport.isEmpty with
    | true => cases (negotiate?_of_invisible visible).symm.trans chosen
    | false => exact (negotiate?_eq_some_iff visible).1 chosen
  · cases visible : viewport.isEmpty with
    | true => rw [negotiate?_of_invisible visible, negotiate?_of_invisible visible]
    | false => exact (negotiate?_append_iff visible).2 farther

/-- A size without height is no candidate, however wide the tolerance. -/
example : negotiate? [⟨4, 0⟩, ⟨640, 480⟩, ⟨800, 480⟩] ⟨1, 1⟩ (.infinite false) =
    some ⟨640, 480⟩ := by
  decide +kernel

end Viewfinder.Preview
