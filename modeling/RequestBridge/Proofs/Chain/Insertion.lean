import RequestBridge.Chain.Stages
import RequestBridge.Proofs.Chain.Passage

/-! Logging stages put between other stages.

A list of slots is a list of stages with empty places in it, and the logging stage goes into each of
these (`logged`). A passage through all of them, without what is done at the empty places, is a
passage through the other stages, which have moved together (`Passage.unlogged`), and every passage
through the other stages comes from one through all of them (`Passage.logged`). Only log events are
left out (`quiet_unlogged`). -/
namespace RequestBridge.Chain
open Act (Step)

/-- The stages with a logging stage in each empty slot. -/
def logged (slots : List (Option Middleware)) : List Middleware :=
  slots.map (·.getD .logging)

/-- The stages without the empty slots. -/
def unlogged (slots : List (Option Middleware)) : List Middleware := slots.filterMap id

/-- The place that a stage has, or the handler, where there are no empty slots. -/
def unloggedPlace (slots : List (Option Middleware)) (place : Nat) : Nat :=
  (unlogged (slots.take place)).length

/-- A deed as it is done where there are no empty slots, if it is done there at all. -/
def Deed.unlogged? (slots : List (Option Middleware)) (d : Deed) : Option Deed :=
  match slots[d.place]? with
  | some none => none
  | _ => some ⟨unloggedPlace slots d.place, d.doing⟩

/-- The deeds as they are done where there are no empty slots. -/
def unloggedDeeds (slots : List (Option Middleware)) (deeds : List Deed) : List Deed :=
  deeds.filterMap (Deed.unlogged? slots)

section Slots
variable {m : Middleware} {slots : List (Option Middleware)}

theorem unloggedPlace_zero (slots : List (Option Middleware)) : unloggedPlace slots 0 = 0 := rfl

theorem unloggedPlace_taken (place : Nat) :
    unloggedPlace (some m :: slots) (place + 1) = unloggedPlace slots place + 1 := rfl

theorem unloggedDeeds_append (ds es : List Deed) :
    unloggedDeeds slots (ds ++ es) = unloggedDeeds slots ds ++ unloggedDeeds slots es :=
  List.filterMap_append

theorem unlogged_here_empty (doings : List Doing) :
    unloggedDeeds (none :: slots) (here doings) = [] := by
  refine List.filterMap_eq_nil_iff.mpr fun d hd => ?_
  obtain ⟨doing, _, rfl⟩ := List.mem_map.mp hd
  rfl

theorem unlogged_deeper_empty (ds : List Deed) :
    unloggedDeeds (none :: slots) (deeper ds) = unloggedDeeds slots ds := by
  rw [unloggedDeeds, deeper, List.filterMap_map]
  rfl

theorem unlogged_around_empty (request : Request) (steps : List Step) (passed : Request)
    (inner : List Deed) (out : List Doing) :
    unloggedDeeds (none :: slots) (around request steps passed inner out) =
      unloggedDeeds slots inner := by
  rw [around, unloggedDeeds_append, unloggedDeeds_append, unlogged_here_empty,
    unlogged_here_empty, unlogged_deeper_empty, List.nil_append, List.append_nil]

theorem unlogged_here_nil (doings : List Doing) :
    unloggedDeeds [] (here doings) = here doings := by
  rw [unloggedDeeds, here, List.filterMap_map]
  exact congrFun List.filterMap_eq_map doings

theorem unlogged_here_taken (doings : List Doing) :
    unloggedDeeds (some m :: slots) (here doings) = here doings := by
  rw [unloggedDeeds, here, List.filterMap_map]
  exact congrFun List.filterMap_eq_map doings

theorem unlogged_deeper_taken (ds : List Deed) :
    unloggedDeeds (some m :: slots) (deeper ds) = deeper (unloggedDeeds slots ds) := by
  rw [unloggedDeeds, deeper, List.filterMap_map, unloggedDeeds, deeper, List.map_filterMap]
  refine congrArg (fun f : Deed → Option Deed => ds.filterMap f) (funext fun d => ?_)
  show Deed.unlogged? (some m :: slots) ⟨d.place + 1, d.doing⟩ = _
  unfold Deed.unlogged?
  rw [List.getElem?_cons_succ, unloggedPlace_taken]
  rcases slots[d.place]? with _ | _ | _ <;> rfl

theorem unlogged_around_taken (request : Request) (steps : List Step) (passed : Request)
    (inner : List Deed) (out : List Doing) :
    unloggedDeeds (some m :: slots) (around request steps passed inner out) =
      around request steps passed (unloggedDeeds slots inner) out := by
  rw [around, unloggedDeeds_append, unloggedDeeds_append, unlogged_here_taken,
    unlogged_here_taken, unlogged_deeper_taken]
  rfl

end Slots

/-! ### What a logging stage can do -/

/-- The event with which a request enters a logging stage. -/
def startedEvent (request : Request) : Log.Event :=
  ⟨.info, "request started",
    [("http.method", .text request.method.name), ("http.path", .text request.path)]⟩

theorem runs_enter_logging {request : Request} {steps : List Step}
    {result : Except Payload Decision} :
    (Middleware.logging.enter request).Runs steps result ↔ steps = [.log (startedEvent request)] ∧
      result = .ok (.forward request fun outcome =>
        .log (Middleware.finishedEvent request outcome) (.done outcome)) := by
  constructor
  · rintro ⟨_, rfl, rfl, rfl⟩
    exact ⟨rfl, rfl⟩
  · rintro ⟨rfl, rfl⟩
    exact ⟨[], rfl, rfl, rfl⟩

theorem not_turns_logging {h : Handler} {request : Request} {ms : List Middleware}
    {steps : List Step} {result : Except Payload Outcome} :
    ¬ Turns h request (.logging :: ms) steps result := by
  rintro (_ | hruns | hruns)
  · cases (runs_enter_logging.mp hruns).2
  · cases (runs_enter_logging.mp hruns).2

/-- What a logging stage does on the way out. -/
def loggingOut (request : Request) : Except Payload Outcome → List Doing
  | .ok outcome =>
    resuming outcome [.log (Middleware.finishedEvent request outcome)] (.ok outcome)
  | .error _ => []

/-- A logging stage passes its request on as it is, and comes out with what lies inside it. -/
theorem passage_logging_iff {h : Handler} {ms : List Middleware} {request : Request}
    {deeds : List Deed} {result : Except Payload Outcome} :
    Passage h (.logging :: ms) request deeds result ↔ ∃ inner, Passage h ms request inner result ∧
      deeds = around request [.log (startedEvent request)] request inner
        (loggingOut request result) := by
  constructor
  · rintro (hturns | @⟨_, _, _, passed, steps, after, inner, out, within, _, hruns, hinner, hexit⟩)
    · exact absurd hturns not_turns_logging
    · obtain ⟨rfl, hdecision⟩ := runs_enter_logging.mp hruns
      cases hdecision
      cases hexit with
      | unwound payload => exact ⟨inner, hinner, rfl⟩
      | resumed hmore =>
        obtain ⟨_, rfl, rfl, rfl⟩ := hmore
        exact ⟨inner, hinner, rfl⟩
  · rintro ⟨inner, hinner, rfl⟩
    refine .passed (runs_enter_logging.mpr ⟨rfl, rfl⟩) hinner ?_
    cases result with
    | error payload => exact .unwound payload
    | ok outcome => exact .resumed ⟨[], rfl, rfl, rfl⟩

/-! ### Passages with and without them -/

theorem Turns.of_cons {h : Handler} {request : Request} {m : Middleware} {ms ms' : List Middleware}
    {steps : List Step} {result : Except Payload Outcome}
    (hturns : Turns h request (m :: ms) steps result) : Turns h request (m :: ms') steps result := by
  cases hturns with
  | answered hruns => exact .answered hruns
  | failed hruns => exact .failed hruns

theorem Passage.unlogged {h : Handler} {slots : List (Option Middleware)} {request : Request}
    {deeds : List Deed} {result : Except Payload Outcome}
    (hpassage : Passage h (logged slots) request deeds result) :
    Passage h (Chain.unlogged slots) request (unloggedDeeds slots deeds) result := by
  -- An empty slot passes the same request on, so inside it the induction goes on as if it were not.
  induction slots generalizing request deeds result with
  | nil =>
    cases hpassage with
    | turned hturns =>
      rw [unlogged_here_nil]
      exact .turned hturns
  | cons slot slots ih =>
    cases slot with
    | none =>
      obtain ⟨inner, hinner, rfl⟩ := passage_logging_iff.mp hpassage
      rw [unlogged_around_empty]
      exact ih hinner
    | some m =>
      cases hpassage with
      | turned hturns =>
        rw [unlogged_here_taken]
        exact .turned hturns.of_cons
      | passed hruns hinner hexit =>
        rw [unlogged_around_taken]
        exact .passed hruns (ih hinner) hexit

theorem Passage.logged {h : Handler} {slots : List (Option Middleware)} {request : Request}
    {deeds : List Deed} {result : Except Payload Outcome}
    (hpassage : Passage h (Chain.unlogged slots) request deeds result) :
    ∃ deeds', Passage h (Chain.logged slots) request deeds' result ∧
      unloggedDeeds slots deeds' = deeds := by
  induction slots generalizing request deeds result with
  | nil =>
    cases hpassage with
    | turned hturns => exact ⟨_, .turned hturns, unlogged_here_nil _⟩
  | cons slot slots ih =>
    cases slot with
    | none =>
      obtain ⟨inner, hinner, rfl⟩ := ih hpassage
      exact ⟨_, passage_logging_iff.mpr ⟨inner, hinner, rfl⟩, unlogged_around_empty ..⟩
    | some m =>
      cases hpassage with
      | turned hturns => exact ⟨_, .turned hturns.of_cons, unlogged_here_taken _⟩
      | passed hruns hinner hexit =>
        obtain ⟨inner, hlogged, rfl⟩ := ih hinner
        exact ⟨_, .passed hruns hlogged hexit, unlogged_around_taken ..⟩

/-- At every place but the empty ones the same is done, and with the same requests and outcomes. -/
theorem doingsAt_unlogged {h : Handler} {slots : List (Option Middleware)} {request : Request}
    {deeds : List Deed} {result : Except Payload Outcome}
    (hpassage : Passage h (Chain.logged slots) request deeds result) {place : Nat}
    (hplace : place ≤ slots.length) (htaken : slots[place]? ≠ some none) :
    doingsAt (unloggedPlace slots place) (unloggedDeeds slots deeds) = doingsAt place deeds := by
  induction slots generalizing request deeds result place with
  | nil =>
    obtain rfl := Nat.le_zero.mp hplace
    cases hpassage with
    | turned hturns =>
      rw [unlogged_here_nil]
      rfl
  | cons slot slots ih =>
    cases slot with
    | none =>
      obtain ⟨inner, hinner, rfl⟩ := passage_logging_iff.mp hpassage
      rw [unlogged_around_empty]
      cases place with
      | zero => exact absurd rfl htaken
      | succ place =>
        rw [doingsAt_succ_around]
        exact ih hinner (Nat.le_of_succ_le_succ hplace) htaken
    | some m =>
      cases hpassage with
      | turned hturns =>
        rw [unlogged_here_taken]
        cases place with
        | zero => rfl
        | succ place => rw [unloggedPlace_taken, doingsAt_succ_here, doingsAt_succ_here]
      | passed hruns hinner hexit =>
        rw [unlogged_around_taken]
        cases place with
        | zero => rw [unloggedPlace_zero, doingsAt_zero_around, doingsAt_zero_around]
        | succ place =>
          rw [unloggedPlace_taken, doingsAt_succ_around, doingsAt_succ_around]
          exact ih hinner (Nat.le_of_succ_le_succ hplace) htaken

/-! ### What is left out -/

/-- The steps that are no log events. -/
def quiet (steps : List Step) : List Step := steps.filter (·.event?.isNone)

theorem quiet_append (steps more : List Step) : quiet (steps ++ more) = quiet steps ++ quiet more :=
  List.filter_append ..

theorem quiet_unlogged {h : Handler} {slots : List (Option Middleware)} {request : Request}
    {deeds : List Deed} {result : Except Payload Outcome}
    (hpassage : Passage h (logged slots) request deeds result) :
    quiet (stepsOf (unloggedDeeds slots deeds)) = quiet (stepsOf deeds) := by
  induction slots generalizing request deeds result with
  | nil =>
    cases hpassage with
    | turned hturns => rw [unlogged_here_nil]
  | cons slot slots ih =>
    cases slot with
    | none =>
      obtain ⟨inner, hinner, rfl⟩ := passage_logging_iff.mp hpassage
      rw [unlogged_around_empty, stepsOf_around, quiet_append, quiet_append, ih hinner]
      cases result with
      | error payload => exact (List.append_nil _).symm
      | ok outcome =>
        rw [loggingOut, stepsOf_resuming]
        exact (List.append_nil _).symm
    | some m =>
      cases hpassage with
      | turned hturns => rw [unlogged_here_taken]
      | passed hruns hinner hexit =>
        rw [unlogged_around_taken, stepsOf_around, stepsOf_around, quiet_append, quiet_append,
          quiet_append, quiet_append, ih hinner]

/-- What is read off steps other than log events is the same without log events. -/
theorem filterMap_quiet {α : Type} {kind : Step → Option α}
    (hkind : ∀ s, s.event?.isSome → kind s = none) (steps : List Step) :
    (quiet steps).filterMap kind = steps.filterMap kind := by
  induction steps with
  | nil => rfl
  | cons s steps ih =>
    cases hevent : s.event? with
    | none =>
      rw [quiet, List.filter_cons_of_pos (by rw [hevent]; rfl), List.filterMap_cons,
        List.filterMap_cons]
      exact congrArg (fun rest => match kind s with | none => rest | some x => x :: rest) ih
    | some event =>
      rw [quiet, List.filter_cons_of_neg (by rw [hevent]; exact Bool.false_ne_true),
        List.filterMap_cons_none (hkind s (by rw [hevent]; rfl))]
      exact ih

theorem mark?_of_event {s : Step} (h : s.event?.isSome) : s.mark? = none := by
  cases s <;> first | rfl | cases h

theorem answer?_of_event {s : Step} (h : s.event?.isSome) : s.answer? = none := by
  cases s <;> first | rfl | cases h

/-- Nothing but its place changes of a deed. -/
theorem doing_unlogged {slots : List (Option Middleware)} {d d' : Deed}
    (h : d.unlogged? slots = some d') : d'.doing = d.doing := by
  unfold Deed.unlogged? at h
  split at h
  · cases h
  · cases h
    rfl

/-- Only whole steps are left out, and the others keep their order. -/
theorem unlogged_sublist (slots : List (Option Middleware)) (deeds : List Deed) :
    (stepsOf (unloggedDeeds slots deeds)).Sublist (stepsOf deeds) := by
  induction deeds with
  | nil => exact .slnil
  | cons d deeds ih =>
    rw [stepsOf_cons]
    cases hslot : d.unlogged? slots with
    | none =>
      rw [unloggedDeeds, List.filterMap_cons_none hslot]
      exact ih.trans (List.sublist_append_right ..)
    | some d' =>
      rw [unloggedDeeds, List.filterMap_cons_some hslot, stepsOf_cons, doing_unlogged hslot]
      exact ih.append_left _

end RequestBridge.Chain
