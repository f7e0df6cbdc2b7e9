import RequestBridge.Dispatch.Contest
import RequestBridge.Proofs.Engine.Journal

/-! A request is answered by one of those who try.

The first caller that takes a step takes the context, and leads from then on. What all the
others do, before and after, comes to the same thing wherever their steps fall: they are
turned away (`Contest.turnAway`). So a contest is described by the steps of its leader alone,
and each of them, together with what the others do until the next one, is a lemma
(`Leads.take`, `Leads.ask`, `Leads.close`, `Leads.run`). -/
namespace RequestBridge

namespace Engine

/-- The engine after some peers have given up, in this order. -/
def flagged (e : Engine) (flags : List Address) : Engine :=
  { e with cancelled := flags.reverse ++ e.cancelled }

theorem flagged_nil (e : Engine) : e.flagged [] = e := rfl

theorem flagged_flagged (e : Engine) (flags later : List Address) :
    (e.flagged flags).flagged later = e.flagged (flags ++ later) := by
  simp [flagged]

end Engine

namespace Caller

/-- A caller that is not in the middle of its call. -/
def Idle (w : Caller) : Prop :=
  w.standing = .arriving ∨ ∃ delivery, w.standing = .returned delivery

/-- The standing of a caller that has found the token empty, if it had not returned before. -/
def Standing.refused : Standing → Standing
  | .arriving => .returned .alreadyConsumed
  | standing => standing

theorem Standing.refused_refused (standing : Standing) :
    standing.refused.refused = standing.refused := by
  cases standing <;> rfl

theorem Idle.refused {w : Caller} (h : w.Idle) :
    Idle { w with standing := w.standing.refused } := by
  obtain h | ⟨delivery, h⟩ := h <;> simp [Idle, h, Standing.refused]

end Caller

namespace Contest

/-- The peers that give up in the course of some events. -/
def cancelledIn (events : List Event) : List Address :=
  events.filterMap fun
    | .cancel flag => some flag
    | .step _ => none

theorem cancelledIn_append (before after : List Event) :
    cancelledIn (before ++ after) = cancelledIn before ++ cancelledIn after :=
  List.filterMap_append

/-- None of so many callers takes a step. -/
def Untouched (callers : Nat) (events : List Event) : Prop := ∀ i < callers, Event.step i ∉ events

/-- None of the callers is in the middle of its call. -/
def Quiet (c : Contest) : Prop := ∀ w ∈ c.callers, w.Idle

/-- None of the callers has begun its call. -/
def Fresh (c : Contest) : Prop := ∀ w ∈ c.callers, w.standing = .arriving

theorem Fresh.quiet {c : Contest} (h : c.Fresh) : c.Quiet := fun w hw => .inl (h w hw)

/-- Where a caller stands. -/
def standing? (c : Contest) (i : Nat) : Option Caller.Standing := c.callers[i]?.map (·.standing)

/-! ### Those who are turned away -/

/-- What becomes of a contest if every caller that takes a step finds the token empty. -/
def turnAway (c : Contest) (events : List Event) : Contest :=
  { c with
    engine := c.engine.flagged (cancelledIn events)
    callers := c.callers.mapIdx fun i w =>
      if .step i ∈ events then { w with standing := w.standing.refused } else w }

theorem getElem?_turnAway (c : Contest) (events : List Event) (i : Nat) :
    (c.turnAway events).callers[i]? = c.callers[i]?.map fun w =>
      if .step i ∈ events then { w with standing := w.standing.refused } else w :=
  List.getElem?_mapIdx

theorem idle_of_turnAway {c : Contest} {events : List Event} {i : Nat} {w : Caller}
    (hw : (c.turnAway events).callers[i]? = some w) :
    ∃ v, c.callers[i]? = some v ∧ (v.Idle → w.Idle) := by
  rw [getElem?_turnAway] at hw
  obtain ⟨v, hv, rfl⟩ := Option.map_eq_some_iff.mp hw
  refine ⟨v, hv, fun h => ?_⟩
  split
  · exact h.refused
  · exact h

theorem turnAway_turnAway (c : Contest) (before after : List Event) :
    (c.turnAway before).turnAway after = c.turnAway (before ++ after) := by
  unfold turnAway
  rw [Engine.flagged_flagged, cancelledIn_append, List.mapIdx_mapIdx]
  congr 2
  funext i w
  by_cases hbefore : Event.step i ∈ before <;> by_cases hafter : Event.step i ∈ after <;>
    simp [hbefore, hafter, Caller.Standing.refused_refused]

theorem turnAway_of_untouched {c : Contest} {events : List Event}
    (h : Untouched c.callers.length events) :
    c.turnAway events = { c with engine := c.engine.flagged (cancelledIn events) } := by
  unfold turnAway
  congr 1
  refine List.ext_getElem? fun i => ?_
  rw [List.getElem?_mapIdx]
  cases hw : c.callers[i]? with
  | none => rfl
  | some w => simp [h i (List.getElem?_eq_some_iff.mp hw).1]

theorem apply_step {c : Contest} {i : Nat} {w : Caller} (hw : c.callers[i]? = some w) :
    c.apply (.step i) = c.step i w := by
  simp only [apply, hw]

theorem step_of_idle {c : Contest} {i : Nat} {w : Caller} (hempty : c.token = ⟨none⟩)
    (hw : c.callers[i]? = some w) (h : w.Idle) :
    c.step i w = c.setCaller i w w.standing.refused := by
  obtain ⟨response, flag, standing⟩ := w
  obtain rfl | ⟨delivery, rfl⟩ :
      standing = .arriving ∨ ∃ delivery, standing = .returned delivery := h
  · cases c
    subst hempty
    rfl
  · have hsame : c.callers.set i ⟨response, flag, .returned delivery⟩ = c.callers := by
      obtain ⟨hi, hget⟩ := List.getElem?_eq_some_iff.mp hw
      rw [← hget, List.set_getElem_self hi]
    simp only [step, setCaller, Caller.Standing.refused, hsame]

theorem turnAway_step {c : Contest} {i : Nat} {w : Caller} (hw : c.callers[i]? = some w) :
    c.turnAway [.step i] = c.setCaller i w w.standing.refused := by
  unfold setCaller turnAway
  congr 1
  refine List.ext_getElem? fun j => ?_
  rw [List.getElem?_set, List.getElem?_mapIdx]
  have hi : i < c.callers.length := (List.getElem?_eq_some_iff.mp hw).1
  by_cases hj : i = j
  · subst hj
    simp only [hw, hi, Option.map_some, List.mem_singleton, if_true]
  · simp [hj, Ne.symm hj]

theorem apply_of_idle {c : Contest} {event : Event}
    (hidle : ∀ i w, event = .step i → c.callers[i]? = some w → c.token = ⟨none⟩ ∧ w.Idle) :
    c.apply event = c.turnAway [event] := by
  cases event with
  | cancel flag =>
    rw [turnAway_of_untouched (by simp [Untouched])]
    rfl
  | step i =>
    cases hw : c.callers[i]? with
    | none =>
      have hlength := List.getElem?_eq_none_iff.mp hw
      rw [turnAway_of_untouched (by simp [Untouched]; omega)]
      simp [apply, hw, cancelledIn, Engine.flagged_nil]
    | some w =>
      obtain ⟨hempty, hw'⟩ := hidle i w rfl hw
      rw [apply_step hw, step_of_idle hempty hw hw', turnAway_step hw]

/-- If the token is empty whenever a caller takes a step, and no caller that takes one is in the
middle of its call, they are all turned away. -/
theorem run_of_idle {c : Contest} {events : List Event}
    (hidle : ∀ i w, .step i ∈ events → c.callers[i]? = some w → c.token = ⟨none⟩ ∧ w.Idle) :
    c.run events = c.turnAway events := by
  induction events generalizing c with
  | nil => exact (turnAway_of_untouched fun _ _ => List.not_mem_nil).symm
  | cons event rest ih =>
    have hstep : c.apply event = c.turnAway [event] :=
      apply_of_idle fun i w h => hidle i w (h ▸ List.mem_cons_self)
    have hrest : ∀ i w, .step i ∈ rest → (c.turnAway [event]).callers[i]? = some w →
        c.token = ⟨none⟩ ∧ w.Idle := by
      -- Whoever was turned away is not in the middle of a call afterwards either.
      intro i w hmem hw
      obtain ⟨v, hv, hv'⟩ := idle_of_turnAway hw
      exact (hidle i v (List.mem_cons_of_mem _ hmem) hv).imp_right hv'
    calc (c.apply event).run rest
      _ = (c.turnAway [event]).run rest := by rw [hstep]
      _ = (c.turnAway [event]).turnAway rest := ih hrest
      _ = c.turnAway (event :: rest) := turnAway_turnAway c [event] rest

theorem run_of_untouched {c : Contest} {events : List Event}
    (h : Untouched c.callers.length events) :
    c.run events = { c with engine := c.engine.flagged (cancelledIn events) } := by
  have hidle : c.run events = c.turnAway events :=
    run_of_idle fun i w hmem hw => absurd hmem (h i (List.getElem?_eq_some_iff.mp hw).1)
  rw [hidle, turnAway_of_untouched h]

/-! ### The one who leads -/

/-- Caller `i` was the first to find the context. It stands at some place by now, and has made
some calls, the latest first. All the others have been turned away. -/
structure Leads (c : Contest) (events : List Event) (i : Nat) (w : Caller) (calls : List Call) :
    Prop where
  token : (c.run events).token = ⟨none⟩
  engine : (c.run events).engine = (c.engine.flagged (cancelledIn events)).noted calls
  leader : (c.run events).callers[i]? = some w
  others : ∀ j, j ≠ i → (c.run events).callers[j]? = (c.turnAway events).callers[j]?

theorem run_concat (c : Contest) (events : List Event) (event : Event) :
    c.run (events ++ [event]) = (c.run events).apply event := run_append c events [event]

theorem cancelledIn_concat_step (events : List Event) (i : Nat) :
    cancelledIn (events ++ [.step i]) = cancelledIn events := by
  rw [cancelledIn_append]
  exact List.append_nil _

theorem turnAway_concat_step (c : Contest) (events : List Event) {i j : Nat} (hj : j ≠ i) :
    (c.turnAway (events ++ [.step i])).callers[j]? = (c.turnAway events).callers[j]? := by
  rw [← turnAway_turnAway, getElem?_turnAway]
  simp [hj]

namespace Leads
variable {c : Contest} {events : List Event} {i : Nat} {w : Caller} {calls : List Call}
  {x : Address}

theorem standing (h : Leads c events i w calls) : (c.run events).standing? i = some w.standing := by
  rw [standing?, h.leader]
  rfl

theorem standing_ne (h : Leads c events i w calls) {j : Nat} (hj : j ≠ i) :
    (c.run events).standing? j = (c.turnAway events).standing? j :=
  congrArg _ (h.others j hj)

/-- The step in which the leader finds the context. -/
theorem take {before : List Event} (hbefore : Untouched c.callers.length before)
    (htoken : c.token = ⟨some x⟩) (hw : c.callers[i]? = some w)
    (harriving : w.standing = .arriving) :
    Leads c (before ++ [.step i]) i { w with standing := .holding x } [] := by
  have hrun : c.run (before ++ [.step i]) =
      { c with engine := c.engine.flagged (cancelledIn before), token := ⟨none⟩ }.setCaller i w
        (.holding x) := by
    have hw' : (c.run before).callers[i]? = some w := by rwa [run_of_untouched hbefore]
    rw [run_concat, apply_step hw', run_of_untouched hbefore]
    simp only [step, harriving, htoken, CompletionToken.take]
  have hi : i < c.callers.length := (List.getElem?_eq_some_iff.mp hw).1
  constructor
  case token => rw [hrun]; rfl
  case engine => rw [hrun, cancelledIn_concat_step]; rfl
  case leader => rw [hrun]; exact List.getElem?_set_self hi
  case others =>
    intro j hj
    rw [hrun, turnAway_concat_step c before hj, turnAway_of_untouched hbefore]
    exact List.getElem?_set_ne (Ne.symm hj)

/-- A step of the leader. -/
theorem move (h : Leads c events i w calls) {d : Contest} {standing : Caller.Standing}
    (new : List Call) (hstep : (c.run events).step i w = d)
    (htoken : d.token = (c.run events).token)
    (hengine : d.engine = (c.run events).engine.noted new)
    (hcallers : d.callers = (c.run events).callers.set i { w with standing }) :
    Leads c (events ++ [.step i]) i { w with standing } (new ++ calls) := by
  have hrun : c.run (events ++ [.step i]) = d := by
    rw [run_concat, apply_step h.leader, hstep]
  have hi := (List.getElem?_eq_some_iff.mp h.leader).1
  constructor
  case token => rw [hrun, htoken, h.token]
  case engine => rw [hrun, hengine, h.engine, Engine.noted_noted, cancelledIn_concat_step]
  case leader => rw [hrun, hcallers, List.getElem?_set_self hi]
  case others =>
    intro j hj
    rw [hrun, hcallers, List.getElem?_set_ne (Ne.symm hj), h.others j hj,
      turnAway_concat_step c events hj]

/-- The leader asks whether the peer has given up. -/
theorem ask (h : Leads c events i w calls) (hw : w.standing = .holding x) :
    Leads c (events ++ [.step i]) i
      { w with standing :=
          .resolved x ((c.engine.flagged (cancelledIn events)).isCancelled w.flag) }
      (Engine.asking w.flag ++ calls) := by
  have hasked : (c.run events).engine.isCancelled w.flag =
      (c.engine.flagged (cancelledIn events)).isCancelled w.flag := by
    rw [h.engine]
    rfl
  have hstep : (c.run events).step i w =
      { c.run events with
        engine := (c.run events).engine.noted (Engine.asking w.flag) }.setCaller i w
        (.resolved x ((c.engine.flagged (cancelledIn events)).isCancelled w.flag)) := by
    simp only [step, hw, Engine.ask_eq, hasked]
  exact h.move (Engine.asking w.flag) hstep rfl rfl rfl

/-- The leader takes the terminal action. -/
theorem close {gone : Bool} (h : Leads c events i w calls) (hw : w.standing = .resolved x gone) :
    Leads c (events ++ [.step i]) i
      { w with standing := .returned (if gone then .released else .sent) }
      ((if gone then Terminal.released x
        else .completed x (Frame.encodeResponse w.response.fitted.1)).call :: calls) := by
  cases gone with
  | true =>
    have hstep : (c.run events).step i w =
        { c.run events with engine := (c.run events).engine.release x }.setCaller i w
          (.returned .released) := by
      simp only [step, hw]
    exact h.move [.released x] hstep rfl rfl rfl
  | false =>
    have hstep : (c.run events).step i w =
        { c.run events with
          engine := (c.run events).engine.complete x (Frame.encodeResponse w.response.fitted.1)
          log := (c.run events).log ++ w.response.fitted.2 }.setCaller i w (.returned .sent) := by
      simp only [step, hw]
    exact h.move [.completed x (Frame.encodeResponse w.response.fitted.1)] hstep rfl rfl rfl

/-- What the others do, and what a leader does who has returned. -/
theorem run (h : Leads c events i w calls) (hquiet : c.Quiet) (more : List Event)
    (hmore : .step i ∈ more → ∃ delivery, w.standing = .returned delivery) :
    Leads c (events ++ more) i w calls := by
  have hidle : ∀ j v, .step j ∈ more → (c.run events).callers[j]? = some v →
      (c.run events).token = ⟨none⟩ ∧ v.Idle := by
    intro j v hmem hv
    refine ⟨h.token, ?_⟩
    by_cases hj : j = i
    · subst hj
      obtain rfl := Option.some.inj (h.leader.symm.trans hv)
      exact .inr (hmore hmem)
    · rw [h.others j hj] at hv
      obtain ⟨u, hu, hv'⟩ := idle_of_turnAway hv
      exact hv' (hquiet u (List.mem_of_getElem? hu))
  have hrun : c.run (events ++ more) = (c.run events).turnAway more := by
    rw [run_append, run_of_idle hidle]
  constructor
  case token => rw [hrun]; exact h.token
  case engine =>
    rw [hrun, cancelledIn_append, ← Engine.flagged_flagged]
    show (c.run events).engine.flagged _ = _
    rw [h.engine]
    rfl
  case leader =>
    rw [hrun, getElem?_turnAway, h.leader, Option.map_some]
    split
    · next hmem =>
      obtain ⟨delivery, hw⟩ := hmore hmem
      obtain ⟨response, flag, standing⟩ := w
      obtain rfl : standing = .returned delivery := hw
      rfl
    · rfl
  case others =>
    intro j hj
    rw [hrun, ← turnAway_turnAway, getElem?_turnAway, getElem?_turnAway (c.turnAway events),
      h.others j hj]

end Leads

/-! ### Calls in one piece -/

/-- A caller that makes its call in one piece. -/
def answer (c : Contest) (i : Nat) (w : Caller) : Contest :=
  let (token, delivered) := c.token.complete c.engine w.response w.flag
  { c with engine := delivered.engine, token, log := c.log ++ delivered.events }.setCaller i w
    (.returned delivered.delivery)

/-- The steps of one caller with nothing in between are one call. -/
theorem run_steps {c : Contest} {i : Nat} {w : Caller} (hw : c.callers[i]? = some w)
    (harriving : w.standing = .arriving) :
    c.run [.step i, .step i, .step i] = c.answer i w := by
  have hi : i < c.callers.length := (List.getElem?_eq_some_iff.mp hw).1
  show ((c.apply (.step i)).apply (.step i)).apply (.step i) = _
  rw [apply_step hw]
  obtain ⟨engine, ⟨context⟩, callers, log⟩ := c
  obtain ⟨response, flag, standing⟩ := w
  obtain rfl : standing = .arriving := harriving
  cases context with
  | none =>
    simp [step, CompletionToken.take, setCaller, apply, hi, answer, CompletionToken.complete]
  | some x =>
    cases hgone : engine.isCancelled flag <;>
      simp [step, CompletionToken.take, setCaller, apply, hi, Engine.ask_eq, hgone, answer,
        CompletionToken.complete, Engine.deliver]

/-! ### The law -/

theorem Untouched.left {n : Nat} {before after : List Event} (h : Untouched n (before ++ after)) :
    Untouched n before := fun i hi hmem => h i hi (List.mem_append_left _ hmem)

/-- Whether one of so many callers takes a step. -/
def Event.isStep (callers : Nat) : Event → Bool
  | .cancel _ => false
  | .step i => decide (i < callers)

theorem exists_first {n : Nat} {events : List Event} (h : ¬ Untouched n events) :
    ∃ before i rest, events = before ++ .step i :: rest ∧ i < n ∧ Untouched n before := by
  cases hfind : events.find? (Event.isStep n) with
  | none =>
    have huntouched : Untouched n events := fun i hi hmem =>
      List.find?_eq_none.mp hfind _ hmem (decide_eq_true hi)
    exact absurd huntouched h
  | some event =>
    obtain ⟨hstep, before, rest, rfl, hbefore⟩ := List.find?_eq_some_iff_append.mp hfind
    cases event with
    | cancel flag => cases hstep
    | step i =>
      refine ⟨before, i, rest, rfl, of_decide_eq_true hstep, fun j hj hmem => ?_⟩
      have hnot := hbefore _ hmem
      simp [Event.isStep, hj] at hnot

section
variable {c : Contest} {x : Address} {events : List Event}

/-- The whole course of the caller that takes the first step. -/
theorem leads_of_first {before : List Event} {i : Nat} {w : Caller} (hfresh : c.Fresh)
    (htoken : c.token = ⟨some x⟩) (hbefore : Untouched c.callers.length before)
    (hw : c.callers[i]? = some w) (rest : List Event) :
    (.step i ∉ rest →
      Leads c (before ++ .step i :: rest) i { w with standing := .holding x } []) ∧
    ∀ between later, rest = between ++ .step i :: later → .step i ∉ between →
      let asked := c.engine.flagged (cancelledIn (before ++ between))
      (.step i ∉ later → Leads c (before ++ .step i :: rest) i
        { w with standing := .resolved x (asked.isCancelled w.flag) } (Engine.asking w.flag)) ∧
      (.step i ∈ later → Leads c (before ++ .step i :: rest) i
        { w with standing := .returned (if asked.isCancelled w.flag then .released else .sent) }
        ((asked.closing x w.response w.flag).call :: Engine.asking w.flag)) := by
  have hquiet := hfresh.quiet
  -- From each step of the leader to its next one, the others are turned away.
  have hheld := Leads.take hbefore htoken hw (hfresh w (List.mem_of_getElem? hw))
  constructor
  · intro hrest
    have hnow := hheld.run hquiet rest fun hmem => absurd hmem hrest
    rwa [List.append_assoc] at hnow
  rintro between later rfl hbetween asked
  have hflags : cancelledIn (before ++ [.step i] ++ between) = cancelledIn (before ++ between) := by
    rw [cancelledIn_append, cancelledIn_concat_step, ← cancelledIn_append]
  have hasked := (hheld.run hquiet between fun hmem => absurd hmem hbetween).ask rfl
  rw [hflags, List.append_nil] at hasked
  constructor
  · intro hlater
    have hnow := hasked.run hquiet later fun hmem => absurd hmem hlater
    simp only [List.append_assoc] at hnow
    exact hnow
  · intro hlater
    obtain ⟨meanwhile, after, rfl, hmeanwhile⟩ := List.eq_append_cons_of_mem hlater
    have hclosed := (hasked.run hquiet meanwhile fun hmem => absurd hmem hmeanwhile).close rfl
    have hnow := hclosed.run hquiet after fun _ => ⟨_, rfl⟩
    simp only [List.append_assoc] at hnow
    exact hnow

/-- The caller that takes the first step leads from then on, and has taken one terminal action by
the time it returns. -/
theorem exists_leads {before : List Event} {i : Nat} {w : Caller} (hfresh : c.Fresh)
    (htoken : c.token = ⟨some x⟩) (hbefore : Untouched c.callers.length before)
    (hw : c.callers[i]? = some w) (rest : List Event) :
    ∃ v calls, Leads c (before ++ .step i :: rest) i v calls ∧ (v.Idle →
      ∃ t : Terminal, t.context = x ∧ calls.reverse.filterMap Call.terminal? = [t]) := by
  obtain ⟨hheld, hlater⟩ := leads_of_first hfresh htoken hbefore hw rest
  by_cases hrest : Event.step i ∈ rest
  · obtain ⟨between, later, rfl, hbetween⟩ := List.eq_append_cons_of_mem hrest
    obtain ⟨hasked, hclosed⟩ := hlater between later rfl hbetween
    by_cases hmem : Event.step i ∈ later
    · refine ⟨_, _, hclosed hmem, fun _ => ?_⟩
      exact ⟨_, Engine.context_closing (c.engine.flagged _) x _ _, Engine.terminal?_closed _ _⟩
    · exact ⟨_, _, hasked hmem, fun hidle => by simp [Caller.Idle] at hidle⟩
  · exact ⟨_, _, hheld hrest, fun hidle => by simp [Caller.Idle] at hidle⟩

theorem run_of_null (hfresh : c.Fresh) (htoken : c.token = ⟨none⟩) :
    c.run events = c.turnAway events :=
  run_of_idle fun _ w _ hw => ⟨htoken, hfresh.quiet w (List.mem_of_getElem? hw)⟩

theorem isConsumed_run (hfresh : c.Fresh) :
    (c.run events).token.isConsumed = false ↔
      c.token.context ≠ none ∧ Untouched c.callers.length events := by
  by_cases h : Untouched c.callers.length events
  · rw [run_of_untouched h]
    cases hcontext : c.token.context <;> simp [CompletionToken.isConsumed, hcontext, h]
  · have hempty : (c.run events).token = ⟨none⟩ := by
      cases hcontext : c.token.context with
      | none =>
        have htoken : c.token = ⟨none⟩ := congrArg CompletionToken.mk hcontext
        rw [run_of_null hfresh htoken]
        exact htoken
      | some x =>
        obtain ⟨before, i, rest, rfl, hi, hbefore⟩ := exists_first h
        obtain ⟨w, calls, hleads, -⟩ := exists_leads hfresh
          (congrArg CompletionToken.mk hcontext) hbefore (List.getElem?_eq_getElem hi) rest
        exact hleads.token
    simp [hempty, CompletionToken.isConsumed, h]

theorem drop_of_empty (h : c.token = ⟨none⟩) : c.drop = c := by
  obtain ⟨engine, token, callers, log⟩ := c
  obtain rfl : token = ⟨none⟩ := h
  simp [drop, CompletionToken.drop]

theorem terminals_drop (hfresh : c.Fresh) (htoken : c.token = ⟨some x⟩)
    (hquiet : (c.run events).Quiet) :
    ∃ t : Terminal, t.context = x ∧
      (c.run events).drop.engine.terminals = c.engine.terminals ++ [t] := by
  by_cases h : Untouched c.callers.length events
  · -- No one has come for the context, so the end of the token lets the request go.
    refine ⟨.released x, rfl, ?_⟩
    rw [run_of_untouched h]
    simp only [drop, htoken, CompletionToken.drop]
    exact Engine.terminals_noted (c.engine.flagged _) [(Terminal.released x).call]
  · -- Someone has, and is not in the middle of its call, so it has acted and the token is empty.
    obtain ⟨before, i, rest, rfl, hi, hbefore⟩ := exists_first h
    obtain ⟨w, calls, hleads, hdone⟩ :=
      exists_leads hfresh htoken hbefore (List.getElem?_eq_getElem hi) rest
    obtain ⟨t, ht, hcalls⟩ := hdone (hquiet w (List.mem_of_getElem? hleads.leader))
    refine ⟨t, ht, ?_⟩
    rw [drop_of_empty hleads.token, hleads.engine, Engine.terminals_noted, hcalls]
    rfl

end

/-- Where a caller stands who finds the token empty. -/
def turned (events : List Event) (i : Nat) : Caller.Standing :=
  if .step i ∈ events then .returned .alreadyConsumed else .arriving

theorem fresh_start (engine : Engine) (context : Option Address)
    (calls : List (Response × Option Address)) : (start engine context calls).Fresh := by
  intro w hw
  obtain ⟨call, -, rfl⟩ := List.mem_map.mp hw
  rfl

theorem standing?_turnAway (engine : Engine) (context : Option Address)
    {calls : List (Response × Option Address)} (events : List Event) {i : Nat}
    (hi : i < calls.length) :
    ((start engine context calls).turnAway events).standing? i = some (turned events i) := by
  rw [standing?, getElem?_turnAway]
  simp only [start, List.getElem?_map, List.getElem?_eq_getElem hi, Option.map_some, turned]
  split <;> rfl

/-- A request is answered by the caller that takes the first step, and by no other, wherever the
steps of the others fall and whichever peers give up in between. The steps of one caller in a row
are one call of the token. The token holds a context until the first step, and never again. If it
has none from the start, everyone is turned away, and the engine hears of nothing. Otherwise it has
heard of one terminal action once the calls that were begun have returned and the token is dropped.
If no call was begun, the end of the token lets the request go. If one was, its caller asks whether
its own peer has given up by then, acts as it is told, and returns accordingly, while the others are
turned away, and neither they nor the end of the token add anything. -/
theorem one_caller_answers (engine : Engine) (context : Option Address)
    (calls : List (Response × Option Address)) (events : List Event) :
    let now := (start engine context calls).run events
    let unheard := engine.flagged (cancelledIn events)
    (∀ i w, now.callers[i]? = some w → w.standing = .arriving →
      now.run [.step i, .step i, .step i] = now.answer i w) ∧
    (now.token.isConsumed = false ↔ context ≠ none ∧ Untouched calls.length events) ∧
    (now.token.isConsumed = true → ∀ more, (now.run more).token.isConsumed = true) ∧
    (context = none →
      (∀ j < calls.length, now.standing? j = some (turned events j)) ∧
      now.engine = unheard ∧ now.drop = now) ∧
    ∀ x, context = some x →
      (now.Quiet → ∃ t : Terminal, t.context = x ∧
        now.drop.engine.terminals = engine.terminals ++ [t]) ∧
      (Untouched calls.length events →
        now.engine = unheard ∧ now.drop.engine = unheard.release x) ∧
      ∀ before i rest r flag, events = before ++ .step i :: rest →
        Untouched calls.length before → calls[i]? = some (r, flag) →
        now.drop = now ∧
        (∀ j < calls.length, j ≠ i → now.standing? j = some (turned events j)) ∧
        (.step i ∉ rest → now.standing? i = some (.holding x) ∧ now.engine = unheard) ∧
        ∀ between later, rest = between ++ .step i :: later → .step i ∉ between →
          let asked := engine.flagged (cancelledIn (before ++ between))
          (.step i ∉ later →
            now.standing? i = some (.resolved x (asked.isCancelled flag)) ∧
            now.engine = unheard.noted (Engine.asking flag)) ∧
          (.step i ∈ later →
            now.standing? i =
              some (.returned (if asked.isCancelled flag then .released else .sent)) ∧
            now.engine =
              unheard.noted ((asked.closing x r flag).call :: Engine.asking flag)) := by
  intro now unheard
  have hfresh := fresh_start engine context calls
  have hlength : (start engine context calls).callers.length = calls.length := List.length_map _
  refine ⟨fun i w hw harriving => run_steps hw harriving, hlength ▸ isConsumed_run hfresh,
    ?_, ?_, ?_⟩
  · intro hspent more
    rw [← run_append]
    rw [← Bool.not_eq_false, isConsumed_run hfresh] at hspent ⊢
    exact fun ⟨hcontext, h⟩ => hspent ⟨hcontext, h.left⟩
  · rintro rfl
    have hnow : now = (start engine none calls).turnAway events := run_of_null hfresh rfl
    rw [hnow]
    exact ⟨fun j hj => standing?_turnAway engine none events hj, rfl, drop_of_empty rfl⟩
  · rintro x rfl
    refine ⟨terminals_drop hfresh rfl, ?_, ?_⟩
    · intro h
      have hnow : now = { start engine (some x) calls with engine := unheard } :=
        run_of_untouched (hlength ▸ h)
      rw [hnow]
      exact ⟨rfl, rfl⟩
    · rintro before i rest r flag rfl hbefore hcall
      have hw : (start engine (some x) calls).callers[i]? = some { response := r, flag } := by
        simp [start, hcall]
      obtain ⟨v, new, hleads, -⟩ := exists_leads hfresh rfl (hlength ▸ hbefore) hw rest
      obtain ⟨hheld, hlater⟩ := leads_of_first hfresh rfl (hlength ▸ hbefore) hw rest
      refine ⟨drop_of_empty hleads.token, ?_, ?_, ?_⟩
      · intro j hj hne
        rw [hleads.standing_ne hne, standing?_turnAway engine (some x) _ hj]
      · exact fun hrest => ⟨(hheld hrest).standing, (hheld hrest).engine⟩
      · intro between later hsplit hbetween asked
        obtain ⟨hasked, hclosed⟩ := hlater between later hsplit hbetween
        exact ⟨fun hmem => ⟨(hasked hmem).standing, (hasked hmem).engine⟩,
          fun hmem => ⟨(hclosed hmem).standing, (hclosed hmem).engine⟩⟩

/-- Of two callers the second comes first, and its peer gives up before it asks. -/
theorem overtaking_caller_finds_peer_gone :
    let calls : List (Response × Option Address) := [(⟨200, []⟩, some 32), (⟨404, []⟩, some 48)]
    let now := (start (Engine.new .memory) (some 16) calls).run
      [.step 1, .step 0, .cancel 48, .step 1, .step 0, .step 1]
    now.standing? 0 = some (.returned .alreadyConsumed) ∧
      now.standing? 1 = some (.returned .released) ∧
      now.token.isConsumed = true ∧ now.drop.engine.terminals = [.released 16] := by
  intro calls now
  obtain ⟨-, hconsumed, -, -, hcontext⟩ := one_caller_answers (Engine.new .memory) (some 16) calls
    [.step 1, .step 0, .cancel 48, .step 1, .step 0, .step 1]
  obtain ⟨-, -, hfirst⟩ := hcontext 16 rfl
  obtain ⟨hdrop, hothers, -, hleader⟩ := hfirst [] 1 _ _ _ rfl (fun _ _ => List.not_mem_nil) rfl
  obtain ⟨-, hclosed⟩ := hleader [.step 0, .cancel 48] [.step 0, .step 1] rfl (by decide)
  obtain ⟨hreturned, hengine⟩ := hclosed (by decide)
  refine ⟨hothers 0 (by decide) (by decide), hreturned, ?_, ?_⟩
  · rw [← Bool.not_eq_false, hconsumed]
    exact fun h => h.2 1 (by decide) (by decide)
  · rw [hdrop, hengine]
    rfl

end Contest
end RequestBridge
