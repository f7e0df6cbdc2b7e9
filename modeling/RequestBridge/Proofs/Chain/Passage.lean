import RequestBridge.Chain.Pipeline
import RequestBridge.Proofs.Chain.Steps

/-! The way of a request through the stages of a chain.

The stages of a chain have the places from zero on, and its handler the place after the last stage.
A passage is the list of all that is done at these places while a request goes through: it enters
them one within the other, and comes out again (`Passage`). The runs of a pipeline are the steps of
its passages (`runs_start_iff`). -/
namespace RequestBridge.Chain
open Act (Step)

/-- What is done at a place. -/
inductive Doing where
  | enter (request : Request)
  | step (step : Step)
  /-- The stage passes a request on to all that lies inside it. -/
  | call (request : Request)
  /-- The stage goes on with what the inside has come to. -/
  | resume (outcome : Outcome)
  | leave (outcome : Outcome)
  | panic (payload : Payload)

namespace Doing

def enter? : Doing → Option Request
  | .enter request => some request
  | _ => none

def step? : Doing → Option Step
  | .step s => some s
  | _ => none

def call? : Doing → Option Request
  | .call request => some request
  | _ => none

def resume? : Doing → Option Outcome
  | .resume outcome => some outcome
  | _ => none

/-- The end of what is done at a place. -/
def last : Except Payload Outcome → Doing
  | .ok outcome => .leave outcome
  | .error payload => .panic payload

end Doing

/-- Something done, and the place where it is done. -/
structure Deed where
  place : Nat
  doing : Doing

/-- Deeds of some kind with their places. -/
def pick {α : Type} (kind : Doing → Option α) (deeds : List Deed) : List (Nat × α) :=
  deeds.filterMap fun d => (kind d.doing).map (d.place, ·)

def entries (deeds : List Deed) : List (Nat × Request) := pick Doing.enter? deeds

def calls (deeds : List Deed) : List (Nat × Request) := pick Doing.call? deeds

def resumes (deeds : List Deed) : List (Nat × Outcome) := pick Doing.resume? deeds

/-- The steps among the deeds, wherever they are taken. -/
def stepsOf (deeds : List Deed) : List Step := deeds.filterMap (·.doing.step?)

/-- What is done at one place. -/
def doingsAt (place : Nat) (deeds : List Deed) : List Doing :=
  (deeds.filter (·.place == place)).map (·.doing)

/-- Deeds at the outermost place. -/
def here (doings : List Doing) : List Deed := doings.map (Deed.mk 0)

/-- The deeds with one more stage around them. -/
def deeper (deeds : List Deed) : List Deed := deeds.map fun d => ⟨d.place + 1, d.doing⟩

/-- What is done from entering a place up to what follows the steps there. -/
def entering (request : Request) (steps : List Step) (next : Doing) : List Doing :=
  .enter request :: (steps.map .step ++ [next])

/-- What a stage does that goes on with an outcome. -/
def resuming (outcome : Outcome) (steps : List Step) (result : Except Payload Outcome) :
    List Doing :=
  .resume outcome :: (steps.map .step ++ [.last result])

/-- What is done at a stage and inside it: the way in, all that lies inside, and the way out. -/
def around (request : Request) (steps : List Step) (passed : Request) (inner : List Deed)
    (out : List Doing) : List Deed :=
  here (entering request steps (.call passed)) ++ (deeper inner ++ here out)

/-- A request gets no further inwards than to the first of these stages, or to the handler if there
is none. -/
inductive Turns (h : Handler) (request : Request) :
    List Middleware → List Step → Except Payload Outcome → Prop
  | handled {steps : List Step} {result : Except Payload Outcome}
      (hruns : (h request).Runs steps result) : Turns h request [] steps result
  | answered {m : Middleware} {ms : List Middleware} {steps : List Step} {outcome : Outcome}
      (hruns : (m.enter request).Runs steps (.ok (.answer outcome))) :
      Turns h request (m :: ms) steps (.ok outcome)
  | failed {m : Middleware} {ms : List Middleware} {steps : List Step} {payload : Payload}
      (hruns : (m.enter request).Runs steps (.error payload)) :
      Turns h request (m :: ms) steps (.error payload)

/-- How a stage comes out again: it goes on with the outcome of what lies inside it, and does nothing
more if that has panicked. -/
inductive Exit (after : Outcome → Act Outcome) :
    Except Payload Outcome → List Doing → Except Payload Outcome → Prop
  | unwound (payload : Payload) : Exit after (.error payload) [] (.error payload)
  | resumed {outcome : Outcome} {more : List Step} {result : Except Payload Outcome}
      (hmore : (after outcome).Runs more result) :
      Exit after (.ok outcome) (resuming outcome more result) result

/-- All that is done while a request goes through stages to a handler and back. -/
inductive Passage (h : Handler) :
    List Middleware → Request → List Deed → Except Payload Outcome → Prop
  | turned {ms : List Middleware} {request : Request} {steps : List Step}
      {result : Except Payload Outcome} (hturns : Turns h request ms steps result) :
      Passage h ms request (here (entering request steps (.last result))) result
  | passed {m : Middleware} {ms : List Middleware} {request passed : Request}
      {steps : List Step} {after : Outcome → Act Outcome} {inner : List Deed} {out : List Doing}
      {within result : Except Payload Outcome}
      (hruns : (m.enter request).Runs steps (.ok (.forward passed after)))
      (hinner : Passage h ms passed inner within) (hexit : Exit after within out result) :
      Passage h (m :: ms) request (around request steps passed inner out) result

/-! ### What is picked from deeds -/

section Pick
variable {α : Type} (kind : Doing → Option α)

theorem pick_append (ds es : List Deed) : pick kind (ds ++ es) = pick kind ds ++ pick kind es :=
  List.filterMap_append

theorem pick_here (doings : List Doing) :
    pick kind (here doings) = (doings.filterMap kind).map ((0 : Nat), ·) := by
  unfold pick here
  rw [List.filterMap_map, List.map_filterMap]
  rfl

theorem pick_deeper (ds : List Deed) :
    pick kind (deeper ds) = (pick kind ds).map fun x => (x.1 + 1, x.2) := by
  unfold pick deeper
  rw [List.filterMap_map, List.map_filterMap]
  refine congrArg (fun f : Deed → Option (Nat × α) => ds.filterMap f) (funext fun d => ?_)
  show (kind d.doing).map (d.place + 1, ·) = ((kind d.doing).map (d.place, ·)).map _
  rw [Option.map_map]
  rfl

variable {kind}

theorem filterMap_steps (hkind : ∀ s, kind (.step s) = none) (steps : List Step) :
    (steps.map Doing.step).filterMap kind = [] := by
  rw [List.filterMap_map, List.filterMap_eq_nil_iff]
  exact fun s _ => hkind s

theorem filterMap_single (doing : Doing) : [doing].filterMap kind = (kind doing).toList := by
  rw [List.filterMap_cons]
  cases kind doing <;> rfl

theorem filterMap_entering (hkind : ∀ s, kind (.step s) = none) (request : Request)
    (steps : List Step) (next : Doing) :
    (entering request steps next).filterMap kind =
      (kind (.enter request)).toList ++ (kind next).toList := by
  unfold entering
  rw [← List.singleton_append, List.filterMap_append, List.filterMap_append,
    filterMap_steps hkind, List.nil_append, filterMap_single, filterMap_single]

theorem filterMap_resuming (hkind : ∀ s, kind (.step s) = none) (outcome : Outcome)
    (steps : List Step) (result : Except Payload Outcome) :
    (resuming outcome steps result).filterMap kind =
      (kind (.resume outcome)).toList ++ (kind (.last result)).toList := by
  unfold resuming
  rw [← List.singleton_append, List.filterMap_append, List.filterMap_append,
    filterMap_steps hkind, List.nil_append, filterMap_single, filterMap_single]

end Pick

theorem stepsOf_cons (d : Deed) (ds : List Deed) :
    stepsOf (d :: ds) = d.doing.step?.toList ++ stepsOf ds := by
  rw [stepsOf, List.filterMap_cons]
  cases d.doing.step? <;> rfl

theorem stepsOf_append (ds es : List Deed) : stepsOf (ds ++ es) = stepsOf ds ++ stepsOf es :=
  List.filterMap_append

theorem stepsOf_deeper (ds : List Deed) : stepsOf (deeper ds) = stepsOf ds := by
  unfold stepsOf deeper
  rw [List.filterMap_map]
  rfl

theorem stepsOf_here (doings : List Doing) : stepsOf (here doings) = doings.filterMap Doing.step? := by
  unfold stepsOf here
  rw [List.filterMap_map]
  rfl

theorem filterMap_step? (steps : List Step) : (steps.map Doing.step).filterMap Doing.step? = steps := by
  rw [List.filterMap_map]
  exact List.filterMap_some (l := steps)

theorem step?_last (result : Except Payload Outcome) : (Doing.last result).step? = none := by
  cases result <;> rfl

theorem stepsOf_entering {next : Doing} (hnext : next.step? = none) (request : Request)
    (steps : List Step) : stepsOf (here (entering request steps next)) = steps := by
  rw [stepsOf_here, entering, List.filterMap_cons_none (by rfl), List.filterMap_append,
    filterMap_step?, filterMap_single, hnext]
  exact List.append_nil _

theorem stepsOf_resuming (outcome : Outcome) (steps : List Step)
    (result : Except Payload Outcome) : stepsOf (here (resuming outcome steps result)) = steps := by
  rw [stepsOf_here, resuming, List.filterMap_cons_none (by rfl), List.filterMap_append,
    filterMap_step?, filterMap_single, step?_last]
  exact List.append_nil _

theorem stepsOf_around (request : Request) (steps : List Step) (passed : Request)
    (inner : List Deed) (out : List Doing) :
    stepsOf (around request steps passed inner out) =
      steps ++ (stepsOf inner ++ stepsOf (here out)) := by
  rw [around, stepsOf_append, stepsOf_append, stepsOf_entering rfl, stepsOf_deeper]

/-! ### Deeds and their places -/

theorem mem_here {doings : List Doing} {d : Deed} :
    d ∈ here doings ↔ d.place = 0 ∧ d.doing ∈ doings := by
  obtain ⟨place, doing⟩ := d
  constructor
  · intro h
    obtain ⟨_, hmem, heq⟩ := List.mem_map.mp h
    cases heq
    exact ⟨rfl, hmem⟩
  · rintro ⟨rfl, hmem⟩
    exact List.mem_map.mpr ⟨doing, hmem, rfl⟩

theorem mem_deeper {ds : List Deed} {d : Deed} :
    d ∈ deeper ds ↔ ∃ i, d.place = i + 1 ∧ ⟨i, d.doing⟩ ∈ ds := by
  obtain ⟨place, doing⟩ := d
  constructor
  · intro h
    obtain ⟨⟨i, _⟩, hmem, heq⟩ := List.mem_map.mp h
    cases heq
    exact ⟨i, rfl, hmem⟩
  · rintro ⟨i, rfl, hmem⟩
    exact List.mem_map.mpr ⟨⟨i, doing⟩, hmem, rfl⟩

theorem mem_doingsAt {place : Nat} {doing : Doing} {ds : List Deed} :
    doing ∈ doingsAt place ds ↔ ⟨place, doing⟩ ∈ ds := by
  simp only [doingsAt, List.mem_map, List.mem_filter, beq_iff_eq]
  constructor
  · rintro ⟨⟨_, _⟩, ⟨hmem, rfl⟩, rfl⟩
    exact hmem
  · intro hmem
    exact ⟨_, ⟨hmem, rfl⟩, rfl⟩

theorem doingsAt_eq_nil {place : Nat} {ds : List Deed} (h : ∀ d ∈ ds, d.place ≠ place) :
    doingsAt place ds = [] := by
  refine List.eq_nil_iff_forall_not_mem.mpr fun doing hdoing => ?_
  exact h _ (mem_doingsAt.mp hdoing) rfl

theorem doingsAt_cons_self (place : Nat) (doing : Doing) (ds : List Deed) :
    doingsAt place (⟨place, doing⟩ :: ds) = doing :: doingsAt place ds := by
  simp [doingsAt]

theorem doingsAt_cons_ne {place : Nat} {d : Deed} (h : d.place ≠ place) (ds : List Deed) :
    doingsAt place (d :: ds) = doingsAt place ds := by
  simp [doingsAt, h]

theorem doingsAt_append (place : Nat) (ds es : List Deed) :
    doingsAt place (ds ++ es) = doingsAt place ds ++ doingsAt place es := by
  rw [doingsAt, List.filter_append, List.map_append]
  rfl

theorem doingsAt_here (doings : List Doing) : doingsAt 0 (here doings) = doings := by
  have hall : (here doings).filter (·.place == 0) = here doings :=
    List.filter_eq_self.mpr fun d hd => beq_iff_eq.mpr (mem_here.mp hd).1
  rw [doingsAt, hall, here, List.map_map]
  exact List.map_id _

theorem doingsAt_succ_here (i : Nat) (doings : List Doing) : doingsAt (i + 1) (here doings) = [] :=
  doingsAt_eq_nil fun d hd => by
    rw [(mem_here.mp hd).1]
    exact (Nat.succ_ne_zero i).symm

theorem doingsAt_zero_deeper (ds : List Deed) : doingsAt 0 (deeper ds) = [] := by
  refine doingsAt_eq_nil fun d hd => ?_
  obtain ⟨i, hplace, _⟩ := mem_deeper.mp hd
  rw [hplace]
  exact Nat.succ_ne_zero i

theorem doingsAt_deeper (i : Nat) (ds : List Deed) :
    doingsAt (i + 1) (deeper ds) = doingsAt i ds := by
  unfold doingsAt deeper
  rw [List.filter_map, List.map_map]
  simp [Function.comp_def]

section Around
variable {request passed : Request} {steps : List Step} {inner : List Deed} {out : List Doing}

theorem mem_around {d : Deed} : d ∈ around request steps passed inner out ↔
    d ∈ here (entering request steps (.call passed)) ∨ d ∈ deeper inner ∨ d ∈ here out := by
  rw [around, List.mem_append, List.mem_append]

theorem mem_around_of_inner {i : Nat} {doing : Doing} (h : ⟨i, doing⟩ ∈ inner) :
    ⟨i + 1, doing⟩ ∈ around request steps passed inner out :=
  mem_around.mpr (.inr (.inl (mem_deeper.mpr ⟨i, rfl, h⟩)))

theorem pick_around {α : Type} {kind : Doing → Option α} (hkind : ∀ s, kind (.step s) = none) :
    pick kind (around request steps passed inner out) =
      ((kind (.enter request)).toList ++ (kind (.call passed)).toList).map ((0 : Nat), ·) ++
        ((pick kind inner).map (fun x => (x.1 + 1, x.2)) ++
          (out.filterMap kind).map ((0 : Nat), ·)) := by
  rw [around, pick_append, pick_append, pick_here, pick_here, pick_deeper,
    filterMap_entering hkind]

theorem doingsAt_zero_around : doingsAt 0 (around request steps passed inner out) =
    entering request steps (.call passed) ++ out := by
  rw [around, doingsAt_append, doingsAt_append, doingsAt_here, doingsAt_here,
    doingsAt_zero_deeper, List.nil_append]

theorem doingsAt_succ_around (i : Nat) :
    doingsAt (i + 1) (around request steps passed inner out) = doingsAt i inner := by
  rw [around, doingsAt_append, doingsAt_append, doingsAt_succ_here, doingsAt_succ_here,
    doingsAt_deeper, List.nil_append, List.append_nil]

end Around

/-! ### Passages are what pipelines do -/

theorem Turns.runs {h : Handler} {request : Request} {ms : List Middleware} {steps : List Step}
    {result : Except Payload Outcome} (hturns : Turns h request ms steps result) :
    ((Pipeline.mk ms h).start request).Runs steps result := by
  cases hturns with
  | handled hruns => exact hruns
  | answered hruns =>
    exact Act.runs_bind_iff.mpr (.inr ⟨_, steps, [], hruns, Act.runs_done _, (List.append_nil _).symm⟩)
  | failed hruns => exact Act.runs_bind_iff.mpr (.inl ⟨_, hruns, rfl⟩)

theorem Passage.runs {h : Handler} {ms : List Middleware} {request : Request} {deeds : List Deed}
    {result : Except Payload Outcome} (hpassage : Passage h ms request deeds result) :
    ((Pipeline.mk ms h).start request).Runs (stepsOf deeds) result := by
  induction hpassage with
  | turned hturns =>
    rw [stepsOf_entering (step?_last _)]
    exact hturns.runs
  | passed hruns hinner hexit ih =>
    rw [stepsOf_around]
    refine Act.runs_bind_iff.mpr (.inr ⟨_, _, _, hruns, ?_, rfl⟩)
    cases hexit with
    | unwound payload => exact Act.runs_bind_iff.mpr (.inl ⟨_, (List.append_nil _).symm ▸ ih, rfl⟩)
    | resumed hmore =>
      rw [stepsOf_resuming]
      exact Act.runs_bind_iff.mpr (.inr ⟨_, _, _, ih, hmore, rfl⟩)

theorem exists_passage {h : Handler} {ms : List Middleware} {request : Request}
    {steps : List Step} {result : Except Payload Outcome}
    (hruns : ((Pipeline.mk ms h).start request).Runs steps result) :
    ∃ deeds, Passage h ms request deeds result ∧ stepsOf deeds = steps := by
  induction ms generalizing request steps result with
  | nil => exact ⟨_, .turned (.handled hruns), stepsOf_entering (step?_last _) _ _⟩
  | cons m ms ih =>
    rcases Act.runs_bind_iff.mp hruns with
      ⟨payload, hfails, rfl⟩ | ⟨decision, before, rest, henters, hrest, rfl⟩
    · exact ⟨_, .turned (.failed hfails), stepsOf_entering (step?_last _) _ _⟩
    cases decision with
    | answer outcome =>
      obtain ⟨rfl, rfl⟩ := hrest
      rw [List.append_nil]
      exact ⟨_, .turned (.answered henters), stepsOf_entering (step?_last _) _ _⟩
    | forward passed after =>
      rcases Act.runs_bind_iff.mp hrest with
        ⟨payload, hpanics, rfl⟩ | ⟨outcome, within, more, hreturns, hmore, rfl⟩
      · obtain ⟨inner, hinner, rfl⟩ := ih hpanics
        refine ⟨_, .passed henters hinner (.unwound payload), ?_⟩
        rw [stepsOf_around]
        exact congrArg (before ++ ·) (List.append_nil _)
      · obtain ⟨inner, hinner, rfl⟩ := ih hreturns
        refine ⟨_, .passed henters hinner (.resumed hmore), ?_⟩
        rw [stepsOf_around, stepsOf_resuming]

/-- A pipeline takes the steps of its passages, and no others. -/
theorem runs_start_iff {h : Handler} {ms : List Middleware} {request : Request}
    {steps : List Step} {result : Except Payload Outcome} :
    ((Pipeline.mk ms h).start request).Runs steps result ↔
      ∃ deeds, Passage h ms request deeds result ∧ stepsOf deeds = steps := by
  refine ⟨exists_passage, ?_⟩
  rintro ⟨deeds, hpassage, rfl⟩
  exact hpassage.runs

end RequestBridge.Chain
