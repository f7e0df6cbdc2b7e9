import RequestBridge.Proofs.Chain.Insertion
import RequestBridge.Proofs.Chain.Onion

/-! What logging stages leave behind.

A logging stage puts one event in front of all that lies inside it, and one behind, unless something
inside it panics (`Logs`). The events of two logging stages stand in each other like brackets
(`Bracketed`). Apart from these events a chain with logging stages does the same as without them
(`Transparent`, `logging_is_transparent`). -/
namespace RequestBridge.Chain
open Act (Step)

/-! ### The events of one stage -/

/-- The event with which an outcome leaves a logging stage that the request has entered. -/
inductive Finishes (request : Request) : Outcome → Log.Event → Prop
  | completed (response : Response) : Finishes request (.ok response)
      ⟨.info, "request completed",
        [("http.method", .text request.method.name), ("http.path", .text request.path),
          ("http.status_code", .number response.status.toNat)]⟩
  | cancelled : Finishes request (.error .cancelled)
      ⟨.debug, "request cancelled",
        [("http.method", .text request.method.name), ("http.path", .text request.path)]⟩
  | failed {failure : Failure} (hother : failure ≠ .cancelled) : Finishes request (.error failure)
      ⟨.warn, "request failed",
        [("http.method", .text request.method.name), ("http.path", .text request.path),
          ("error", .text failure.message)]⟩

theorem finishes_finishedEvent (request : Request) (outcome : Outcome) :
    Finishes request outcome (Middleware.finishedEvent request outcome) := by
  rcases outcome with failure | response
  · cases failure with
    | cancelled => exact .cancelled
    | http _ => exact .failed nofun
    | other _ => exact .failed nofun
  · exact .completed response

/-- What is done at the place of a logging stage that the request has entered: the first event, then
all that lies inside, and then, if nothing inside has panicked, the second event. -/
inductive Logs (deeds : List Deed) (place : Nat) (request : Request) : Prop
  | cut {deepest : Nat} {payload : Payload} (hdeeper : place < deepest)
      (hpanic : ⟨deepest, .panic payload⟩ ∈ deeds)
      (hdoings : doingsAt place deeds =
        [.enter request, .step (.log (startedEvent request)), .call request])
  | whole {outcome : Outcome} {event : Log.Event}
      (hreturned : ⟨place + 1, .leave outcome⟩ ∈ deeds)
      (hcalm : ∀ deepest payload, place < deepest → ⟨deepest, .panic payload⟩ ∉ deeds)
      (hfinishes : Finishes request outcome event)
      (hdoings : doingsAt place deeds =
        [.enter request, .step (.log (startedEvent request)), .call request,
          .resume outcome, .step (.log event), .leave outcome])

section Around
variable {deeds : List Deed} {place : Nat} {request request' passed : Request} {steps : List Step}
  {out : List Doing}

/-- With one more stage around it, a logging stage does the same. -/
theorem Logs.around (hlogs : Logs deeds place request) :
    Logs (Chain.around request' steps passed deeds out) (place + 1) request := by
  cases hlogs with
  | cut hplace hpanic hdoings =>
    exact .cut (Nat.succ_lt_succ hplace) (mem_around_of_inner hpanic)
      ((doingsAt_succ_around place).trans hdoings)
  | whole hreturned hcalm hfinishes hdoings =>
    refine .whole (mem_around_of_inner hreturned) ?_ hfinishes
      ((doingsAt_succ_around place).trans hdoings)
    intro deepest payload hplace hpanic
    rcases panic_mem_around hpanic with ⟨k, rfl, hinner⟩ | ⟨rfl, _⟩
    · exact hcalm k payload (Nat.lt_of_succ_lt_succ hplace) hinner
    · exact absurd hplace (Nat.not_lt_zero _)

/-- The outermost stage, if it is a logging stage. -/
theorem logs_outermost {h : Handler} {ms : List Middleware} {result : Except Payload Outcome}
    (hinner : Passage h ms request deeds result) :
    Logs (Chain.around request [.log (startedEvent request)] request deeds
      (loggingOut request result)) 0 request := by
  have ho := hinner.onion
  cases result with
  | error payload =>
    obtain ⟨i, hpanic⟩ := ho.panics payload rfl
    exact .cut (Nat.succ_pos i) (mem_around_of_inner hpanic) doingsAt_zero_around
  | ok outcome =>
    have hleave := List.mem_of_getLast? (ho.returned outcome rfl).2
    refine .whole (mem_around_of_inner hleave) ?_ (finishes_finishedEvent request outcome)
      doingsAt_zero_around
    intro deepest payload hplace hpanic
    rcases panic_mem_around hpanic with ⟨k, _, hpanic⟩ | ⟨rfl, _⟩
    · cases (ho.panicked k payload hpanic).1
    · exact absurd hplace (Nat.lt_irrefl 0)

end Around

/-- Every logging stage that is entered logs the request that it has received. -/
theorem Passage.logs {h : Handler} {ms : List Middleware} {request : Request} {deeds : List Deed}
    {result : Except Payload Outcome} (hpassage : Passage h ms request deeds result) {place : Nat}
    (hstage : ms[place]? = some .logging) (hentered : place ≤ (calls deeds).length) :
    ∃ request', (place, request') ∈ entries deeds ∧ Logs deeds place request' := by
  induction hpassage generalizing place with
  | @turned ms request steps result hturns =>
    rw [calls_turned] at hentered
    obtain rfl := Nat.le_zero.mp hentered
    cases ms with
    | nil => cases hstage
    | cons m ms =>
      obtain rfl := Option.some.inj hstage
      exact absurd hturns not_turns_logging
  | @passed m ms request passed steps after inner out within result hruns hinner hexit ih =>
    cases place with
    | zero =>
      obtain rfl := Option.some.inj hstage
      obtain ⟨inner', hinner', hdeeds⟩ :=
        passage_logging_iff.mp (.passed hruns hinner hexit : Passage h (.logging :: ms) _ _ _)
      refine ⟨request, ?_, ?_⟩
      · rw [hexit.entries_around]
        exact List.mem_cons_self
      · rw [hdeeds]
        exact logs_outermost hinner'
    | succ place =>
      rw [hexit.length_calls_around] at hentered
      obtain ⟨request', hmem, hlogs⟩ := ih hstage (Nat.le_of_succ_le_succ hentered)
      refine ⟨request', ?_, hlogs.around⟩
      rw [hexit.entries_around]
      exact List.mem_cons_of_mem _ (List.mem_map_of_mem hmem)

/-! ### The events of two stages -/

/-- The event that is logged by what is done. -/
def Doing.event? : Doing → Option Log.Event
  | .step s => s.event?
  | _ => none

/-- All events, and the places where they are logged. -/
def logs (deeds : List Deed) : List (Nat × Log.Event) := pick Doing.event? deeds

/-- The events that are logged at two places stand in each other like brackets: those further inside
come after the first event of the stage around them and before its second one. -/
def Bracketed (deeds : List Deed) (outer inner : Nat) (request request' : Request) : Prop :=
  ∃ closes closes' : Option Log.Event,
    (logs deeds).filter (fun x => x.1 == outer || x.1 == inner) =
      (outer, startedEvent request) :: (inner, startedEvent request') ::
        (closes'.toList.map (inner, ·) ++ closes.toList.map (outer, ·)) ∧
    (closes.isSome → closes'.isSome)

section Places
variable {passed : Request} {deeds before inner after : List Deed} {place further : Nat}

/-- What a stage does that passes its request on, without what lies inside it. -/
theorem Nested.doingsAt_eq (hn : Nested deeds place passed before inner after) :
    doingsAt place deeds = doingsAt place before ++ .call passed :: doingsAt place after := by
  have hinner : doingsAt place inner = [] :=
    doingsAt_eq_nil fun d hd => Nat.ne_of_gt (hn.inside d hd)
  rw [hn.split, doingsAt_append, doingsAt_cons_self, doingsAt_append, hinner, List.nil_append]

/-- All that is done at a place further inside is done between the call of a stage and its return. -/
theorem Nested.doingsAt_inner (hn : Nested deeds place passed before inner after)
    (hdeeper : place < further) : doingsAt further inner = doingsAt further deeds := by
  have hbefore : doingsAt further before = [] :=
    doingsAt_eq_nil fun d hd => Nat.ne_of_lt (Nat.lt_of_le_of_lt (hn.not_before d hd) hdeeper)
  have hafter : doingsAt further after = [] :=
    doingsAt_eq_nil fun d hd => Nat.ne_of_lt (Nat.lt_of_le_of_lt (hn.not_after d hd) hdeeper)
  rw [hn.split, doingsAt_append, doingsAt_cons_ne (Nat.ne_of_lt hdeeper), doingsAt_append, hbefore,
    hafter, List.nil_append, List.append_nil]

/-- Picking from the deeds at one place. -/
theorem filter_pick {α : Type} {kind : Doing → Option α} (wanted : Nat → Bool) {ds : List Deed}
    (h : ∀ d ∈ ds, wanted d.place = (d.place == place)) :
    (pick kind ds).filter (fun x => wanted x.1) =
      ((doingsAt place ds).filterMap kind).map (place, ·) := by
  induction ds with
  | nil => rfl
  | cons d ds ih =>
    have hplace := h d List.mem_cons_self
    specialize ih fun d' hd' => h d' (List.mem_cons_of_mem _ hd')
    rw [← List.singleton_append, pick_append, List.filter_append, ih, doingsAt_append,
      List.filterMap_append, List.map_append]
    refine congrArg (· ++ _) ?_
    by_cases hat : d.place = place
    · subst hat
      cases hkind : kind d.doing <;> simp [pick, doingsAt, hplace, hkind]
    · cases hkind : kind d.doing <;> simp [pick, doingsAt, hplace, hat, hkind]

end Places

/-- The events of a logging stage. -/
theorem Logs.events {deeds : List Deed} {place : Nat} {request : Request}
    (hlogs : Logs deeds place request) : ∃ rest, ∃ closes : Option Log.Event,
      doingsAt place deeds =
        .enter request :: .step (.log (startedEvent request)) :: .call request :: rest ∧
      rest.filterMap Doing.event? = closes.toList ∧
      (closes.isSome ↔ ∀ deepest payload, place < deepest → ⟨deepest, .panic payload⟩ ∉ deeds) := by
  cases hlogs with
  | cut hdeeper hpanic hdoings =>
    exact ⟨[], none, hdoings, rfl, nofun, fun h => absurd hpanic (h _ _ hdeeper)⟩
  | whole _ hcalm hfinishes hdoings =>
    exact ⟨_, some _, hdoings, rfl, fun _ => hcalm, fun _ => rfl⟩

/-- The steps up to the call of a stage are told by what the stage does. -/
theorem steps_of_entering {request received passed passed' : Request} {s : Step}
    {steps : List Step} {rest rest' : List Doing}
    (h : .enter request :: .step s :: .call passed :: rest =
      .enter received :: steps.map Doing.step ++ .call passed' :: rest') :
    steps = [s] ∧ rest = rest' := by
  cases steps with
  | nil => cases h
  | cons s' steps =>
    cases steps with
    | nil =>
      cases h
      exact ⟨rfl, rfl⟩
    | cons s'' steps => cases h

theorem bracketed_of_logs {p : Pipeline} {request request₁ request₂ : Request} {deeds : List Deed}
    {result : Except Payload Outcome} (ho : Onion p request deeds result) {outer inner : Nat}
    (hdeeper : outer < inner) (houter : Logs deeds outer request₁)
    (hinner : Logs deeds inner request₂) : Bracketed deeds outer inner request₁ request₂ := by
  obtain ⟨rest, closes, hdoings, hrest, hcloses⟩ := houter.events
  obtain ⟨rest', closes', hdoings', hrest', hcloses'⟩ := hinner.events
  have hcall : ⟨outer, .call request₁⟩ ∈ deeds := mem_doingsAt.mp (hdoings ▸ by simp)
  obtain ⟨before, within, after, hn⟩ := ho.nested outer request₁ hcall
  obtain ⟨received, steps, hinward⟩ := hn.inward
  have hsplit := hn.doingsAt_eq
  rw [hdoings, hinward] at hsplit
  obtain ⟨rfl, rfl⟩ := steps_of_entering hsplit
  refine ⟨closes, closes', ?_, fun h => hcloses'.mpr fun deepest payload hd =>
    hcloses.mp h deepest payload (Nat.lt_trans hdeeper hd)⟩
  -- What is logged at the two places before the call, inside it, and after it.
  let wanted : Nat → Bool := fun place => place == outer || place == inner
  have hbefore : (logs before).filter (fun x => wanted x.1) = [(outer, startedEvent request₁)] := by
    have hplaces : ∀ d ∈ before, wanted d.place = (d.place == outer) := fun d hd => by
      have := hn.not_before d hd
      grind
    rw [logs, filter_pick wanted hplaces, hinward]
    rfl
  have hwithin : (logs within).filter (fun x => wanted x.1) =
      (inner, startedEvent request₂) :: closes'.toList.map (inner, ·) := by
    have hplaces : ∀ d ∈ within, wanted d.place = (d.place == inner) := fun d hd => by
      have := hn.inside d hd
      grind
    rw [logs, filter_pick wanted hplaces, hn.doingsAt_inner hdeeper, hdoings', ← hrest']
    rfl
  have hafter : (logs after).filter (fun x => wanted x.1) = closes.toList.map (outer, ·) := by
    have hplaces : ∀ d ∈ after, wanted d.place = (d.place == outer) := fun d hd => by
      have := hn.not_after d hd
      grind
    rw [logs, filter_pick wanted hplaces, hrest]
  have hlogs : logs deeds = logs before ++ (logs within ++ logs after) := by
    rw [hn.split, logs, pick_append, ← List.singleton_append, pick_append, pick_append]
    rfl
  show (logs deeds).filter (fun x => wanted x.1) = _
  rw [hlogs, List.filter_append, List.filter_append, hbefore, hwithin, hafter]
  rfl

/-! ### Chains with and without logging stages -/

/-- All that is done with a logging stage in each empty slot, as against what is done without. -/
structure Transparent (slots : List (Option Middleware)) (h : Handler) (request : Request)
    (deeds : List Deed) (result : Except Payload Outcome) : Prop where
  whole : Onion ⟨logged slots, h⟩ request deeds result
  /-- Without the logging stages the request goes the same way, to the same result. -/
  rest : Onion ⟨unlogged slots, h⟩ request (unloggedDeeds slots deeds) result
  runs : ((Pipeline.mk (unlogged slots) h).start request).Runs
    (stepsOf (unloggedDeeds slots deeds)) result
  /-- Nothing is missing then but log events. -/
  sublist : (stepsOf (unloggedDeeds slots deeds)).Sublist (stepsOf deeds)
  steps : quiet (stepsOf (unloggedDeeds slots deeds)) = quiet (stepsOf deeds)
  /-- The other stages and the handler receive the same, do the same, and come to the same. -/
  others : ∀ place ≤ slots.length, slots[place]? ≠ some none →
    doingsAt (unloggedPlace slots place) (unloggedDeeds slots deeds) = doingsAt place deeds
  pairs : ∀ place ≤ (calls deeds).length, (logged slots)[place]? = some .logging →
    ∃ request', (place, request') ∈ entries deeds ∧ Logs deeds place request'
  brackets : ∀ outer inner, outer < inner → inner ≤ (calls deeds).length →
    (logged slots)[outer]? = some .logging → (logged slots)[inner]? = some .logging →
    ∃ request₁ request₂, (outer, request₁) ∈ entries deeds ∧ (inner, request₂) ∈ entries deeds ∧
      Bracketed deeds outer inner request₁ request₂

theorem Passage.transparent {slots : List (Option Middleware)} {h : Handler} {request : Request}
    {deeds : List Deed} {result : Except Payload Outcome}
    (hpassage : Passage h (Chain.logged slots) request deeds result) :
    Transparent slots h request deeds result where
  whole := hpassage.onion
  rest := hpassage.unlogged.onion
  runs := hpassage.unlogged.runs
  sublist := unlogged_sublist slots deeds
  steps := quiet_unlogged hpassage
  others _ := doingsAt_unlogged hpassage
  pairs _ hentered hstage := hpassage.logs hstage hentered
  brackets outer inner hdeeper hentered houter hinner := by
    obtain ⟨request₁, hmem₁, hlogs₁⟩ :=
      hpassage.logs houter (Nat.le_trans (Nat.le_of_lt hdeeper) hentered)
    obtain ⟨request₂, hmem₂, hlogs₂⟩ := hpassage.logs hinner hentered
    exact ⟨request₁, request₂, hmem₁, hmem₂,
      bracketed_of_logs hpassage.onion hdeeper hlogs₁ hlogs₂⟩

/-- Two acts show the same result and the same marks if they can take the same steps, apart from log
events. -/
theorem run_eq_of_quiet {a b : Act Outcome}
    (h : ∀ steps result, a.Runs steps result → ∃ steps', b.Runs steps' result ∧
      quiet steps' = quiet steps) (cancelled : Bool) :
    (a.run cancelled).result = (b.run cancelled).result ∧
      (a.run cancelled).marks = (b.run cancelled).marks := by
  obtain ⟨steps, result, hruns, hheeds⟩ := Act.exists_run (fun _ => cancelled) a
  obtain ⟨steps', hruns', hquiet⟩ := h steps result hruns
  have hmarks : steps'.filterMap Step.mark? = steps.filterMap Step.mark? := by
    rw [← filterMap_quiet (fun _ => mark?_of_event), hquiet, filterMap_quiet fun _ => mark?_of_event]
  have hanswers : steps'.filterMap Step.answer? = steps.filterMap Step.answer? := by
    rw [← filterMap_quiet (fun _ => answer?_of_event), hquiet,
      filterMap_quiet fun _ => answer?_of_event]
  have hheeds' : Act.Heeds (fun _ => cancelled) steps' := by
    rw [Act.Heeds, hanswers]
    exact hheeds
  rw [hruns.run_eq hheeds, hruns'.run_eq hheeds']
  exact ⟨rfl, hmarks.symm⟩

/-- Logging stages, wherever they are put between the stages of a chain, change neither what comes
of a request nor what any other stage or the handler receives and does. Each that is entered logs the
request as it has received it, once on the way in and once on the way out with what has come of it,
unless something inside it panics, and the events of different ones stand in each other like
brackets. -/
theorem logging_is_transparent (slots : List (Option Middleware)) (h : Handler)
    (request : Request) :
    let full := (Pipeline.mk (logged slots) h).start request
    let plain := (Pipeline.mk (unlogged slots) h).start request
    (∀ steps result, full.Runs steps result →
      ∃ deeds, stepsOf deeds = steps ∧ Transparent slots h request deeds result) ∧
    (∀ steps result, plain.Runs steps result →
      ∃ steps', full.Runs steps' result ∧ quiet steps' = quiet steps) ∧
    ∀ cancelled, (full.run cancelled).result = (plain.run cancelled).result ∧
      (full.run cancelled).marks = (plain.run cancelled).marks := by
  intro full plain
  have hfull : ∀ steps result, full.Runs steps result →
      ∃ deeds, stepsOf deeds = steps ∧ Transparent slots h request deeds result := by
    intro steps result hruns
    obtain ⟨deeds, hpassage, hsteps⟩ := exists_passage hruns
    exact ⟨deeds, hsteps, hpassage.transparent⟩
  refine ⟨hfull, fun steps result hruns => ?_, run_eq_of_quiet fun steps result hruns => ?_⟩
  · obtain ⟨deeds, hpassage, rfl⟩ := exists_passage hruns
    obtain ⟨deeds', hlogged, rfl⟩ := hpassage.logged
    exact ⟨_, hlogged.runs, (quiet_unlogged hlogged).symm⟩
  · obtain ⟨deeds, rfl, htransparent⟩ := hfull steps result hruns
    exact ⟨_, htransparent.runs, htransparent.steps⟩

/-- A logging stage outside a stage that changes the path, and one inside it: each logs the path that
it has received, the same on the way out as on the way in. -/
theorem logging_is_transparent_around_path :
    let slots : List (Option Middleware) := [none, some (.underPath "v" "/v1"), none]
    let h : Handler := fun request => .mark request.path (.done (.error .cancelled))
    let fields (path : String) : List (String × Log.Value) :=
      [("http.method", .text "GET"), ("http.path", .text path)]
    let steps : List Step :=
      [.log ⟨.info, "request started", fields "/a"⟩, .log ⟨.info, "request started", fields "/v1/a"⟩,
        .mark "/v1/a", .log ⟨.debug, "request cancelled", fields "/v1/a"⟩,
        .log ⟨.debug, "request cancelled", fields "/a"⟩]
    (∃ deeds, stepsOf deeds = steps ∧
      Transparent slots h ⟨.get, "/a", []⟩ deeds (.ok (.error .cancelled))) ∧
    (((Pipeline.mk (logged slots) h).start ⟨.get, "/a", []⟩).run false).marks =
      (((Pipeline.mk (unlogged slots) h).start ⟨.get, "/a", []⟩).run false).marks := by
  intro slots h fields steps
  obtain ⟨hfull, -, hrun⟩ := logging_is_transparent slots h ⟨.get, "/a", []⟩
  refine ⟨hfull steps _ ?_, (hrun false).2⟩
  exact ⟨_, rfl, _, rfl, _, rfl, _, rfl, _, rfl, rfl, rfl⟩

end RequestBridge.Chain
