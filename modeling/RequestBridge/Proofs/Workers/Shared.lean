import RequestBridge.Workers.Shared
import RequestBridge.Proofs.Places

/-! The shared workers are built once.

Whoever is inside holds the lock (`Locks`), so that at most one caller is. What a caller has seen
of the slot while it is inside is true until it leaves, and a caller that is about to build knows
that nothing was built before. Every event keeps that (`Shared.Safe.apply`), and so it holds in
every run (`Shared.Safe.run`), next to the outcomes of all builds so far: some fail, then at most
one succeeds, and none is tried after it. What others do meanwhile is nothing to the caller that
is inside (`Shared.Safe.run_others`), from which follows what becomes of a build that succeeds
(`Shared.Safe.stores`) and of one that fails (`Shared.Safe.fails`): the next caller may try. -/
namespace RequestBridge.Workers

variable {before after standing : Standing} {slot later : Option PoolId} {built : Nat}

namespace Standing

/-- Whether the caller has taken the lock and not given it back yet. -/
def isInside : Standing → Bool
  | .locked | .building | .storing _ | .leaving _ => true
  | .entering | .queued | .served _ => false

def isServed : Standing → Bool
  | .served _ => true
  | _ => false

/-- What a caller can rely on, by where it stands. -/
def Relies (slot : Option PoolId) (built : Nat) : Standing → Prop
  | .entering | .queued | .served none => True
  | .locked => slot = none → built = 0
  | .building | .leaving none => slot = none ∧ built = 0
  | .storing pool => slot = none ∧ pool = 0 ∧ built = 1
  | .leaving (some pool) | .served (some pool) => slot = some pool

/-- One caller moves. -/
theorem relies_set {callers : List Standing} {i : Nat} (hafter : after.Relies slot built)
    (hothers : ∀ (j : Nat) (standing : Standing), j ≠ i → callers[j]? = some standing →
      standing.Relies slot built) :
    ∀ (j : Nat) (standing : Standing), (callers.set i after)[j]? = some standing →
      standing.Relies slot built := by
  intro j standing hj
  rcases getElem?_set_cases hj with ⟨-, rfl⟩ | ⟨hij, hj⟩
  · exact hafter
  · exact hothers j standing (Ne.symm hij) hj

/-- Whoever is outside relies on nothing but what the slot holds. -/
theorem Relies.of_outside (h : standing.Relies slot built) (houtside : standing.isInside = false)
    (hslot : ∀ pool, slot = some pool → later = some pool) (rebuilt : Nat) :
    standing.Relies later rebuilt := by
  cases standing with
  | entering | queued => trivial
  | locked | building | storing pool | leaving answer => cases houtside
  | served answer =>
    cases answer with
    | none => trivial
    | some pool => exact hslot pool h

end Standing

/-! ### The lock -/

/-- The lock is held by the caller that is inside, if there is one. -/
def Locks (holder : Option Nat) (callers : List Standing) : Prop :=
  ∀ i, holder = some i ↔ ∃ standing, callers[i]? = some standing ∧ standing.isInside = true

namespace Locks
variable {holder : Option Nat} {callers : List Standing} {i j : Nat}

theorem enter (h : Locks holder callers) : Locks holder (callers ++ [.entering]) := by
  intro i
  rw [h i]
  refine exists_congr fun standing => and_congr_left fun hinside => ⟨fun hi => ?_, fun hi => ?_⟩
  · rw [List.getElem?_append_left (List.getElem?_eq_some_iff.mp hi).1, hi]
  · rcases getElem?_concat_cases hi with hi | ⟨-, rfl⟩
    · exact hi
    · cases hinside

/-- A caller moves, and stays inside or outside. -/
theorem keep (h : Locks holder callers) (hi : callers[i]? = some before)
    (hsame : after.isInside = before.isInside) : Locks holder (callers.set i after) := by
  intro j
  rw [h j]
  by_cases hj : i = j
  · subst hj
    simp [hi, hsame, getElem?_set_there hi]
  · rw [List.getElem?_set_ne hj]

/-- A caller comes in while nobody is inside. -/
theorem take (h : Locks none callers) (hi : callers[i]? = some before)
    (hinside : after.isInside = true) : Locks (some i) (callers.set i after) := by
  intro j
  by_cases hj : i = j
  · subst hj
    simp [hinside, getElem?_set_there hi]
  · rw [List.getElem?_set_ne hj, ← h j]
    simp [hj]

/-- The caller that is inside goes out. -/
theorem give (h : Locks (some i) callers) (houtside : after.isInside = false) :
    Locks none (callers.set i after) := by
  intro j
  refine ⟨nofun, fun ⟨standing, hj, hinside⟩ => ?_⟩
  rcases getElem?_set_cases hj with ⟨-, rfl⟩ | ⟨hij, hj⟩
  · exact absurd hinside (Bool.eq_false_iff.mp houtside)
  · exact absurd (Option.some.inj ((h j).mpr ⟨standing, hj, hinside⟩)) hij

theorem holder_of_inside (h : Locks holder callers) (hi : callers[i]? = some standing)
    (hinside : standing.isInside = true) : holder = some i :=
  (h i).mpr ⟨standing, hi, hinside⟩

/-- While one is inside, everyone else is outside. -/
theorem outside (h : Locks (some i) callers) (hj : callers[j]? = some standing) (hne : j ≠ i) :
    standing.isInside = false := by
  refine Bool.eq_false_iff.mpr fun hinside => hne ?_
  exact (Option.some.inj (h.holder_of_inside hj hinside)).symm

end Locks

/-! ### What is tried -/

/-- The outcome of a caller's next step, if it is to build. -/
def Standing.attempt? (succeeds : Bool) : Standing → Option Bool
  | .building => some succeeds
  | _ => none

theorem Standing.attempt?_eq_some {succeeds outcome : Bool}
    (h : standing.attempt? succeeds = some outcome) :
    standing = .building ∧ succeeds = outcome := by
  cases standing with
  | building => exact ⟨rfl, Option.some.inj h⟩
  | _ => cases h

/-- Some fail, and so many succeed after them. -/
def Tried (outcomes : List Bool) (built : Nat) : Prop :=
  ∃ failures, outcomes = List.replicate failures false ++ List.replicate built true

namespace Tried
variable {past : List Bool}

theorem fail (h : Tried past 0) : Tried (past ++ [false]) 0 := by
  obtain ⟨failures, rfl⟩ := h
  exact ⟨failures + 1, by simp [List.replicate_succ']⟩

theorem succeed (h : Tried past 0) : Tried (past ++ [true]) 1 := by
  obtain ⟨failures, rfl⟩ := h
  exact ⟨failures, by simp⟩

end Tried

namespace Shared
variable {s t : Shared} {past : List Bool} {i j : Nat} {succeeds : Bool} {event : Event}

/-- The outcome of an event, if someone builds in it. -/
def attempt? (s : Shared) : Event → Option Bool
  | .enter => none
  | .step i succeeds => s.callers[i]?.bind (·.attempt? succeeds)

/-- The outcomes of all builds in the course of some events. -/
def attempts (s : Shared) : List Event → List Bool
  | [] => []
  | event :: rest => (s.attempt? event).toList ++ (s.apply event).attempts rest

theorem apply_step (hi : s.callers[i]? = some standing) :
    s.apply (.step i succeeds) = s.step i succeeds standing := by
  simp only [apply, hi]

/-! ### What is safe -/

/-- What holds of the shared workers, where the builds so far have had these outcomes. -/
structure Safe (s : Shared) (past : List Bool) : Prop where
  lock : Locks s.holder s.callers
  relies : ∀ (i : Nat) (standing : Standing), s.callers[i]? = some standing →
    standing.Relies s.slot s.built
  /-- What was built is in the slot, unless someone is inside. -/
  settled : s.holder = none → s.slot = none → s.built = 0
  first : ∀ pool, s.slot = some pool → pool = 0 ∧ s.built = 1
  kept : s.discarded = []
  tried : Tried past s.built

theorem safe_empty : ({} : Shared).Safe [] where
  lock i := by simp
  relies i standing hi := by simp at hi
  settled _ _ := rfl
  first _ := nofun
  kept := rfl
  tried := ⟨0, rfl⟩

namespace Safe

theorem enter (h : s.Safe past) : (s.apply .enter).Safe past := by
  refine { h with lock := h.lock.enter, relies := fun i standing hi => ?_ }
  rcases getElem?_concat_cases hi with hi | ⟨-, rfl⟩
  · exact h.relies i standing hi
  · trivial

/-- A caller moves, and perhaps goes in or out, while the slot stays as it is. -/
theorem move (h : s.Safe past) (holder : Option Nat)
    (hlock : Locks holder (s.callers.set i after)) (hafter : after.Relies s.slot s.built)
    (hsettled : holder = none → s.slot = none → s.built = 0) :
    ({ s with holder }.setCaller i after).Safe past where
  lock := hlock
  relies := Standing.relies_set hafter fun j standing _ hj => h.relies j standing hj
  settled := hsettled
  first := h.first
  kept := h.kept
  tried := h.tried

/-- What the others rely on when only the slot or the number of builds changes: they are
outside. -/
theorem relies_others (h : s.Safe past) (hi : s.callers[i]? = some before)
    (hinside : before.isInside = true) (hslot : ∀ pool, s.slot = some pool → later = some pool)
    (rebuilt : Nat) (j : Nat) (standing : Standing) (hne : j ≠ i)
    (hj : s.callers[j]? = some standing) : standing.Relies later rebuilt := by
  have hlock := h.lock
  rw [hlock.holder_of_inside hi hinside] at hlock
  exact (h.relies j standing hj).of_outside (hlock.outside hj hne) hslot rebuilt

theorem build (h : s.Safe past) (hi : s.callers[i]? = some .building) :
    ({ s with built := s.built + 1 }.setCaller i (.storing s.built)).Safe (past ++ [true]) := by
  obtain ⟨hslot, hbuilt⟩ := h.relies i _ hi
  have hholder := h.lock.holder_of_inside hi rfl
  constructor
  case lock => exact h.lock.keep hi rfl
  case relies =>
    have hafter : (Standing.storing s.built).Relies s.slot (s.built + 1) := by
      rw [hbuilt]
      exact ⟨hslot, rfl, rfl⟩
    exact Standing.relies_set hafter (h.relies_others hi rfl (fun _ hpool => hpool) _)
  case settled => exact fun hnone => nomatch hholder.symm.trans hnone
  case first => exact fun pool hpool => nomatch hslot.symm.trans hpool
  case kept => exact h.kept
  case tried =>
    show Tried _ (s.built + 1)
    have htried := h.tried
    rw [hbuilt] at htried ⊢
    exact htried.succeed

theorem fail (h : s.Safe past) (hi : s.callers[i]? = some .building) :
    (s.setCaller i (.leaving none)).Safe (past ++ [false]) := by
  have hrelies := h.relies i _ hi
  have hmoved : (s.setCaller i (.leaving none)).Safe past :=
    h.move s.holder (h.lock.keep hi rfl) hrelies h.settled
  have htried : Tried (past ++ [false]) s.built := by
    have htried := h.tried
    rw [hrelies.2] at htried ⊢
    exact htried.fail
  exact { hmoved with tried := htried }

theorem store (h : s.Safe past) {pool : PoolId} (hi : s.callers[i]? = some (.storing pool)) :
    ({ s with slot := some pool }.setCaller i (.leaving (some pool))).Safe past := by
  obtain ⟨hslot, rfl, hbuilt⟩ := h.relies i _ hi
  constructor
  case lock => exact h.lock.keep hi rfl
  case relies =>
    have hnothing : ∀ other, s.slot = some other → some 0 = some other := fun _ hother =>
      nomatch hslot.symm.trans hother
    exact Standing.relies_set rfl (h.relies_others hi rfl hnothing _)
  case settled => exact fun _ => nofun
  case first =>
    rintro pool hpool
    cases hpool
    exact ⟨rfl, hbuilt⟩
  case kept => exact h.kept
  case tried => exact h.tried

theorem store_eq (h : s.Safe past) {pool : PoolId} (hi : s.callers[i]? = some (.storing pool)) :
    s.store pool = ({ s with slot := some pool }, pool) := by
  simp only [Shared.store, (h.relies i _ hi).1]

/-- A step in which nothing is built. -/
theorem step_of_idle (h : s.Safe past) (hi : s.callers[i]? = some standing)
    (hidle : standing.attempt? succeeds = none) : (s.step i succeeds standing).Safe past := by
  have hstay : ∀ after : Standing, after.isInside = standing.isInside →
      after.Relies s.slot s.built → (s.setCaller i after).Safe past := fun after hsame hafter =>
    h.move s.holder (h.lock.keep hi hsame) hafter h.settled
  have hrelies := h.relies i standing hi
  cases standing with
  | entering =>
    cases hslot : s.slot with
    | none => simpa only [Shared.step, hslot] using hstay .queued rfl trivial
    | some pool => simpa only [Shared.step, hslot] using hstay (.served (some pool)) rfl hslot
  | queued =>
    cases hholder : s.holder with
    | none =>
      have hlock : Locks (some i) (s.callers.set i .locked) := (hholder ▸ h.lock).take hi rfl
      have hmoved := h.move (some i) hlock (h.settled hholder) nofun
      simpa only [Shared.step, hholder] using hmoved
    | some _ => simpa only [Shared.step, hholder] using h
  | locked =>
    cases hslot : s.slot with
    | none => simpa only [Shared.step, hslot] using hstay .building rfl ⟨hslot, hrelies hslot⟩
    | some pool => simpa only [Shared.step, hslot] using hstay (.leaving (some pool)) rfl hslot
  | building => cases hidle
  | storing pool => simpa only [Shared.step, h.store_eq hi] using h.store hi
  | leaving answer =>
    -- The next one to come in has to know of what was built, and what it is told is in the slot.
    have hlock := h.lock.holder_of_inside hi rfl ▸ h.lock
    cases answer with
    | none => exact h.move none (hlock.give rfl) trivial fun _ _ => hrelies.2
    | some pool =>
      exact h.move none (hlock.give rfl) hrelies fun _ hslot => nomatch hslot.symm.trans hrelies
  | served answer => exact h

theorem step (h : s.Safe past) (hi : s.callers[i]? = some standing) (succeeds : Bool) :
    (s.step i succeeds standing).Safe (past ++ (standing.attempt? succeeds).toList) := by
  cases hattempt : standing.attempt? succeeds with
  | none => simpa using h.step_of_idle hi hattempt
  | some outcome =>
    obtain ⟨rfl, hsame⟩ := Standing.attempt?_eq_some hattempt
    subst hsame
    cases succeeds with
    | true => exact h.build hi
    | false => exact h.fail hi

theorem apply (h : s.Safe past) (event : Event) :
    (s.apply event).Safe (past ++ (s.attempt? event).toList) := by
  cases event with
  | enter => simpa [attempt?] using h.enter
  | step i succeeds =>
    cases hi : s.callers[i]? with
    | none => simpa [attempt?, Shared.apply, hi] using h
    | some standing => simpa [attempt?, apply_step hi, hi] using h.step hi succeeds

theorem run (h : s.Safe past) (events : List Event) :
    (s.run events).Safe (past ++ s.attempts events) := by
  induction events generalizing s past with
  | nil => simpa [attempts, Shared.run] using h
  | cons event rest ih =>
    have hrest := ih (h.apply event)
    rw [List.append_assoc] at hrest
    exact hrest

end Safe

/-! ### What others do meanwhile -/

/-- Nothing has changed that a caller inside has to do with. -/
structure Undisturbed (i : Nat) (s t : Shared) : Prop where
  slot : t.slot = s.slot
  holder : t.holder = s.holder
  standing : t.callers[i]? = s.callers[i]?

namespace Undisturbed

theorem refl : Undisturbed i s s := ⟨rfl, rfl, rfl⟩

theorem trans {u : Shared} (h : Undisturbed i s t) (h' : Undisturbed i t u) :
    Undisturbed i s u where
  slot := h'.slot.trans h.slot
  holder := h'.holder.trans h.holder
  standing := h'.standing.trans h.standing

theorem setCaller (hne : j ≠ i) : Undisturbed i s (s.setCaller j after) :=
  ⟨rfl, rfl, List.getElem?_set_ne hne⟩

end Undisturbed

namespace Safe

theorem apply_other (h : s.Safe past) (hi : s.callers[i]? = some standing)
    (hinside : standing.isInside = true) (hother : ∀ succeeds, event ≠ .step i succeeds) :
    Undisturbed i s (s.apply event) := by
  have hholder := h.lock.holder_of_inside hi hinside
  cases event with
  | enter =>
    exact ⟨rfl, rfl, List.getElem?_append_left (List.getElem?_eq_some_iff.mp hi).1⟩
  | step j succeeds =>
    have hne : j ≠ i := fun hj => hother succeeds (hj ▸ rfl)
    cases hj : s.callers[j]? with
    | none =>
      simp only [Shared.apply, hj]
      exact .refl
    | some other =>
      have houtside : other.isInside = false := (hholder ▸ h.lock).outside hj hne
      rw [apply_step hj]
      cases other with
      | entering =>
        cases hslot : s.slot <;> simp only [Shared.step, hslot] <;> exact .setCaller hne
      | queued =>
        simp only [Shared.step, hholder]
        exact .refl
      | served answer => exact .refl
      | locked | building | storing pool | leaving answer => cases houtside

theorem run_others (h : s.Safe past) (hi : s.callers[i]? = some standing)
    (hinside : standing.isInside = true) {others : List Event}
    (hothers : ∀ succeeds, .step i succeeds ∉ others) : Undisturbed i s (s.run others) := by
  induction others generalizing s past with
  | nil => exact .refl
  | cons event rest ih =>
    have hfirst : Undisturbed i s (s.apply event) :=
      h.apply_other hi hinside fun succeeds hevent =>
        hothers succeeds (hevent ▸ List.mem_cons_self)
    have hrest := ih (h.apply event) (hfirst.standing.trans hi) fun succeeds hmem =>
      hothers succeeds (List.mem_cons_of_mem _ hmem)
    exact hfirst.trans hrest

/-- A step that leaves the caller inside, what others do meanwhile, and its next step. -/
theorem exists_run_around (h : s.Safe past) (succeeds : Bool) (hi : s.callers[i]? = some standing)
    (hnext : (s.step i succeeds standing).callers[i]? = some after)
    (hinside : after.isInside = true) {others : List Event}
    (hothers : ∀ succeeds, .step i succeeds ∉ others) (again : Bool) :
    ∃ t, Undisturbed i (s.step i succeeds standing) t ∧ t.callers[i]? = some after ∧
      s.run (.step i succeeds :: others ++ [.step i again]) = t.step i again after := by
  have hsame := (h.step hi succeeds).run_others hnext hinside hothers
  have hstill := hsame.standing.trans hnext
  refine ⟨_, hsame, hstill, ?_⟩
  rw [← apply_step hstill, ← apply_step hi]
  exact run_append (s.apply (.step i succeeds)) others [.step i again]

/-! ### What becomes of a build -/

/-- The workers that a caller has built are the ones in the slot once it has taken its next step,
whatever the others do in between. -/
theorem stores (h : s.Safe past) (hi : s.callers[i]? = some .building) {others : List Event}
    (hothers : ∀ succeeds, .step i succeeds ∉ others) (again : Bool) :
    let t := s.run (.step i true :: others ++ [.step i again])
    t.slot = some s.built ∧ t.callers[i]? = some (.leaving (some s.built)) := by
  obtain ⟨t, hsame, hstill, hrun⟩ :=
    h.exists_run_around true hi (getElem?_set_there hi _) rfl hothers again
  have hslot : t.slot = none := hsame.slot.trans (h.relies i _ hi).1
  rw [hrun]
  simp only [Shared.step, Shared.store, hslot]
  exact ⟨rfl, getElem?_set_there hstill _⟩

/-- A caller that has failed to build leaves everything as it was, and the lock to others, with its
next step. -/
theorem fails (h : s.Safe past) (hi : s.callers[i]? = some .building) {others : List Event}
    (hothers : ∀ succeeds, .step i succeeds ∉ others) (again : Bool) :
    let t := s.run (.step i false :: others ++ [.step i again])
    t.slot = none ∧ t.holder = none ∧ t.callers[i]? = some (.served none) := by
  obtain ⟨t, hsame, hstill, hrun⟩ :=
    h.exists_run_around false hi (getElem?_set_there hi _) rfl hothers again
  have hslot : t.slot = none := hsame.slot.trans (h.relies i _ hi).1
  rw [hrun]
  exact ⟨hslot, rfl, getElem?_set_there hstill _⟩

end Safe

theorem slot_apply {pool : PoolId} (h : s.slot = some pool) (event : Event) :
    (s.apply event).slot = some pool := by
  cases event with
  | enter => exact h
  | step i succeeds =>
    cases hi : s.callers[i]? with
    | none => simpa only [apply, hi] using h
    | some standing =>
      rw [apply_step hi]
      cases standing with
      | entering | locked =>
        simp only [step, h]
        exact h
      | queued => cases hholder : s.holder <;> simp only [step, hholder] <;> exact h
      | building => cases succeeds <;> exact h
      | storing other =>
        simp only [step, store, h]
        rfl
      | leaving answer | served answer => exact h

/-- What is in the slot stays there. -/
theorem slot_run {pool : PoolId} (h : s.slot = some pool) (events : List Event) :
    (s.run events).slot = some pool := by
  induction events generalizing s with
  | nil => exact h
  | cons event rest ih => exact ih (slot_apply h event)

/-! ### The next one may try -/

/-- Nothing is there and nobody holds the lock. Whoever is not served yet, or comes now, and does
not fail, builds in steps of its own, and is served with what it has built. -/
structure Open (s : Shared) : Prop where
  empty : s.slot = none
  free : s.holder = none
  next : ∀ comers i standing,
    (s.run (List.replicate comers .enter)).callers[i]? = some standing →
    standing.isServed = false →
    let t := s.run (List.replicate comers .enter ++ List.replicate 6 (.step i true))
    t.slot = some s.built ∧ t.built = s.built + 1 ∧ t.callers[i]? = some (.served (some s.built))

theorem run_enters (s : Shared) (comers : Nat) :
    s.run (List.replicate comers .enter) =
      { s with callers := s.callers ++ List.replicate comers .entering } := by
  induction comers generalizing s with
  | zero => simp [run]
  | succ comers ih =>
    rw [List.replicate_succ, run, ih]
    simp [apply, List.replicate_succ]

/-- Whoever wants the lock and is left alone gets it, builds and is served. -/
theorem run_queued (hslot : s.slot = none) (hholder : s.holder = none)
    (hi : s.callers[i]? = some .queued) :
    s.run (List.replicate 5 (.step i true)) =
      { s with slot := some s.built, built := s.built + 1 }.setCaller i
        (.served (some s.built)) := by
  have hlength : i < s.callers.length := (List.getElem?_eq_some_iff.mp hi).1
  rw [List.replicate_succ, run, apply_step hi]
  simp [List.replicate_succ, run, apply, step, store, setCaller, hslot, hholder, hlength]

theorem run_alone (hslot : s.slot = none) (hholder : s.holder = none)
    (hi : s.callers[i]? = some standing) (hwaits : standing = .entering ∨ standing = .queued) :
    s.run (List.replicate 6 (.step i true)) =
      { s with slot := some s.built, built := s.built + 1 }.setCaller i
        (.served (some s.built)) := by
  have hlength : i < s.callers.length := (List.getElem?_eq_some_iff.mp hi).1
  rcases hwaits with rfl | rfl
  · have hfirst : s.apply (.step i true) = s.setCaller i .queued := by
      rw [apply_step hi]
      simp only [step, hslot]
    have hqueued : (s.setCaller i .queued).callers[i]? = some .queued :=
      getElem?_set_there hi _
    have hrest := run_queued (s := s.setCaller i .queued) hslot hholder hqueued
    rw [List.replicate_succ, run, hfirst, hrest]
    simp [setCaller]
  · -- The last of the steps finds it served.
    rw [List.replicate_succ', run_append, run_queued hslot hholder hi]
    simp [run, apply, step, setCaller, hlength]

namespace Safe

/-- Whoever is outside and not served waits. -/
theorem waits (h : s.Safe past) (hholder : s.holder = none) (hi : s.callers[i]? = some standing)
    (hserved : standing.isServed = false) : standing = .entering ∨ standing = .queued := by
  have houtside : standing.isInside ≠ true := fun hinside =>
    nomatch hholder.symm.trans (h.lock.holder_of_inside hi hinside)
  cases standing with
  | entering => exact .inl rfl
  | queued => exact .inr rfl
  | locked | building | storing pool | leaving answer => exact absurd rfl houtside
  | served answer => cases hserved

theorem opens (h : s.Safe past) (hslot : s.slot = none) (hholder : s.holder = none) :
    s.Open := by
  refine ⟨hslot, hholder, fun comers i standing hi hserved => ?_⟩
  have hwaits := (h.run (List.replicate comers .enter)).waits (by rwa [run_enters]) hi hserved
  rw [run_enters] at hi
  have hrun := run_alone (s := { s with callers := s.callers ++ List.replicate comers .entering })
    hslot hholder hi hwaits
  rw [run_append, run_enters, hrun]
  exact ⟨rfl, rfl, getElem?_set_there hi _⟩

/-- Workers that were built are in the slot, or in the hands of the caller that is inside. -/
theorem slot_or_storing (h : s.Safe past) (hbuilt : s.built ≠ 0) :
    s.slot = some 0 ∨ ∃ i, s.holder = some i ∧ s.callers[i]? = some (.storing 0) := by
  cases hslot : s.slot with
  | some pool =>
    obtain ⟨rfl, -⟩ := h.first pool hslot
    exact .inl rfl
  | none =>
    cases hholder : s.holder with
    | none => exact absurd (h.settled hholder hslot) hbuilt
    | some i =>
      obtain ⟨standing, hi, hinside⟩ := (h.lock i).mp hholder
      have hrelies := h.relies i standing hi
      cases standing with
      | entering | queued | served answer => cases hinside
      | locked => exact absurd (hrelies hslot) hbuilt
      | building => exact absurd hrelies.2 hbuilt
      | storing pool =>
        -- Everyone else inside knows that nothing was built.
        obtain ⟨-, rfl, -⟩ := hrelies
        exact .inr ⟨i, rfl, hi⟩
      | leaving answer =>
        cases answer with
        | none => exact absurd hrelies.2 hbuilt
        | some pool => exact nomatch hslot.symm.trans hrelies

theorem built_le_one (h : s.Safe past) : s.built ≤ 1 := by
  by_cases hbuilt : s.built = 0
  · omega
  · rcases h.slot_or_storing hbuilt with hslot | ⟨i, -, hi⟩
    · exact Nat.le_of_eq (h.first 0 hslot).2
    · exact Nat.le_of_eq (h.relies i _ hi).2.2

end Safe

/-! ### The law -/

/-- Whatever the steps of the callers are mixed with, the builds that are tried fail one after the
other until one succeeds, and none is tried after it. Nothing that was built is thrown away: it is
in the slot, or its caller is inside and about to put it there, and does so with its next step. What
is in the slot stays there, and everyone who is served with workers is served with these. A caller
whose build fails leaves the slot empty, and gives the lock back with its next step, and then
whoever still waits, or comes later, can build the workers and is served with them. -/
theorem workers_are_built_once (events : List Event) :
    let s := ({} : Shared).run events
    s.built ≤ 1 ∧
    (∃ failures, ({} : Shared).attempts events =
      List.replicate failures false ++ List.replicate s.built true) ∧
    s.discarded = [] ∧
    (∀ pool < s.built, s.slot = some pool ∨
      ∃ i, s.holder = some i ∧ s.callers[i]? = some (.storing pool)) ∧
    (∀ pool, s.slot = some pool → pool < s.built ∧ ∀ more, (s.run more).slot = some pool) ∧
    (∀ (i : Nat) pool, s.callers[i]? = some (.served (some pool)) → s.slot = some pool) ∧
    (s.slot = none → s.holder = none → s.Open) ∧
    ∀ (i : Nat) others, s.callers[i]? = some .building → (∀ succeeds, .step i succeeds ∉ others) →
      ∀ again,
        (let t := s.run (.step i true :: others ++ [.step i again])
         t.slot = some s.built ∧ t.callers[i]? = some (.leaving (some s.built))) ∧
        (let t := s.run (.step i false :: others ++ [.step i again])
         t.Open ∧ t.callers[i]? = some (.served none)) := by
  intro s
  have hsafe : s.Safe _ := safe_empty.run events
  refine ⟨hsafe.built_le_one, hsafe.tried, hsafe.kept, ?_, ?_,
    fun i pool hi => hsafe.relies i _ hi, hsafe.opens, ?_⟩
  · intro pool hpool
    obtain rfl : pool = 0 := Nat.lt_one_iff.mp (Nat.lt_of_lt_of_le hpool hsafe.built_le_one)
    exact hsafe.slot_or_storing (Nat.ne_of_gt hpool)
  · intro pool hpool
    obtain ⟨rfl, hbuilt⟩ := hsafe.first pool hpool
    exact ⟨hbuilt ▸ Nat.zero_lt_one, slot_run hpool⟩
  · intro i others hi hothers again
    have hstores := hsafe.stores hi hothers again
    obtain ⟨hempty, hfree, hserved⟩ := hsafe.fails hi hothers again
    have hlater := hsafe.run (.step i false :: others ++ [.step i again])
    exact ⟨hstores, hlater.opens hempty hfree, hserved⟩

/-- Two callers find nothing, and the first of them has taken the lock and is about to build. -/
def rush : List Event :=
  [.enter, .enter, .step 0 true, .step 1 true, .step 0 true, .step 0 true]

/-- The first one fails while the second one tries the lock in vain and a third one comes. The
second one builds then. -/
theorem failed_build_is_made_up_for :
    let s := ({} : Shared).run rush
    let t := s.run [.step 0 false, .step 1 true, .enter, .step 2 true, .step 0 true]
    let u := t.run (List.replicate 6 (.step 1 true))
    s.callers = [.building, .queued] ∧ s.holder = some 0 ∧
    t.callers = [.served none, .queued, .queued] ∧ t.slot = none ∧ t.holder = none ∧
    u.slot = some 0 ∧ u.callers[1]? = some (.served (some 0)) := by
  intro s t u
  obtain ⟨-, -, -, -, -, -, -, hbuild⟩ := workers_are_built_once rush
  obtain ⟨-, hopen, -⟩ :=
    hbuild 0 [.step 1 true, .enter, .step 2 true] (by decide) (by simp) true
  obtain ⟨hslot, -, hserved⟩ := hopen.next 0 1 .queued (by decide) rfl
  exact ⟨by decide, by decide, by decide, hopen.empty, hopen.free, hslot, hserved⟩

end Shared
end RequestBridge.Workers
