import RequestBridge.Chain.Act

/-! Chains step by step.

A run of an act is the list of the steps that it takes, and what it comes to with them
(`Act.Runs`). A poll may be answered either way in it, each time anew, so what holds of all runs
holds whenever the peer gives its request up. Whatever the answers are, there is exactly one run
that is told them (`Act.exists_run`, `Act.Runs.unique`); where all answers are the same it is what
`Act.run` shows (`Act.Runs.run_eq`). -/
namespace RequestBridge.Act
variable {α β : Type}

/-- One step of an act. A poll comes with its answer. -/
inductive Step where
  | mark (text : String)
  | log (event : Log.Event)
  | wait (gate : String)
  | pause
  | poll (cancelled : Bool)
  | share
deriving DecidableEq, Repr

namespace Step

def mark? : Step → Option String
  | .mark text => some text
  | _ => none

def event? : Step → Option Log.Event
  | .log event => some event
  | _ => none

def answer? : Step → Option Bool
  | .poll cancelled => some cancelled
  | _ => none

end Step

/-- The act can take these steps, and comes to this result with them. -/
def Runs : Act α → List Step → Except Payload α → Prop
  | .done value, steps, result => steps = [] ∧ result = .ok value
  | .panic payload, steps, result => steps = [] ∧ result = .error payload
  | .mark text rest, steps, result => ∃ more, steps = .mark text :: more ∧ rest.Runs more result
  | .log event rest, steps, result => ∃ more, steps = .log event :: more ∧ rest.Runs more result
  | .wait gate rest, steps, result => ∃ more, steps = .wait gate :: more ∧ rest.Runs more result
  | .pause rest, steps, result => ∃ more, steps = .pause :: more ∧ rest.Runs more result
  | .poll rest, steps, result =>
    ∃ cancelled more, steps = .poll cancelled :: more ∧ (rest cancelled).Runs more result
  | .share rest, steps, result => ∃ more, steps = .share :: more ∧ rest.Runs more result

theorem runs_done (value : α) : (Act.done value).Runs [] (.ok value) := ⟨rfl, rfl⟩

/-- An act that is followed by another one either panics itself or leaves its value to the other
one, and the steps of both come in this order. -/
theorem runs_bind_iff {a : Act α} {f : α → Act β} {steps : List Step}
    {result : Except Payload β} :
    (a.bind f).Runs steps result ↔
      (∃ payload, a.Runs steps (.error payload) ∧ result = .error payload) ∨
      ∃ value before after, a.Runs before (.ok value) ∧ (f value).Runs after result ∧
        steps = before ++ after := by
  induction a generalizing steps with
  | done value =>
    constructor
    · intro h
      exact .inr ⟨value, [], steps, runs_done value, h, rfl⟩
    · rintro (⟨payload, ⟨_, h⟩, _⟩ | ⟨_, _, after, ⟨rfl, hvalue⟩, h, rfl⟩)
      · cases h
      · cases hvalue
        exact h
  | panic payload =>
    constructor
    · rintro ⟨rfl, rfl⟩
      exact .inl ⟨payload, ⟨rfl, rfl⟩, rfl⟩
    · rintro (⟨_, ⟨rfl, h⟩, rfl⟩ | ⟨_, _, _, ⟨_, h⟩, _⟩)
      · cases h
        exact ⟨rfl, rfl⟩
      · cases h
  | mark text rest ih => simp only [bind, Runs, ih]; grind
  | log event rest ih => simp only [bind, Runs, ih]; grind
  | wait gate rest ih => simp only [bind, Runs, ih]; grind
  | pause rest ih => simp only [bind, Runs, ih]; grind
  | poll rest ih => simp only [bind, Runs, ih]; grind
  | share rest ih => simp only [bind, Runs, ih]; grind

/-! ### The run with given answers -/

/-- The polls among the steps are told the given answers, from the first one on. -/
def Heeds (answers : Nat → Bool) (steps : List Step) : Prop :=
  ∀ i cancelled, (steps.filterMap Step.answer?)[i]? = some cancelled → cancelled = answers i

theorem heeds_cons {answers : Nat → Bool} {step : Step} {steps : List Step}
    (h : step.answer? = none) : Heeds answers (step :: steps) ↔ Heeds answers steps := by
  unfold Heeds
  rw [List.filterMap_cons_none h]

theorem heeds_poll {answers : Nat → Bool} {cancelled : Bool} {steps : List Step} :
    Heeds answers (.poll cancelled :: steps) ↔
      cancelled = answers 0 ∧ Heeds (fun i => answers (i + 1)) steps := by
  unfold Heeds
  rw [List.filterMap_cons_some (show (Step.poll cancelled).answer? = some cancelled from rfl)]
  constructor
  · intro h
    exact ⟨h 0 cancelled rfl, fun i c hc => h (i + 1) c hc⟩
  · rintro ⟨hfirst, hmore⟩ i c hc
    cases i with
    | zero => exact (Option.some.inj hc).symm.trans hfirst
    | succ i => exact hmore i c hc

/-- Every act comes to a result, whatever its polls are answered. -/
theorem exists_run (answers : Nat → Bool) (a : Act α) :
    ∃ steps result, a.Runs steps result ∧ Heeds answers steps := by
  induction a generalizing answers with
  | done value => exact ⟨[], .ok value, runs_done value, nofun⟩
  | panic payload => exact ⟨[], .error payload, ⟨rfl, rfl⟩, nofun⟩
  | poll rest ih =>
    obtain ⟨steps, result, h, hheeds⟩ := ih (answers 0) fun i => answers (i + 1)
    exact ⟨_, result, ⟨_, steps, rfl, h⟩, heeds_poll.mpr ⟨rfl, hheeds⟩⟩
  | mark _ rest ih | log _ rest ih | wait _ rest ih | pause rest ih | share rest ih =>
    obtain ⟨steps, result, h, hheeds⟩ := ih answers
    exact ⟨_, result, ⟨steps, rfl, h⟩, (heeds_cons rfl).mpr hheeds⟩

/-- Nothing but the answers to its polls makes a difference to an act. -/
theorem Runs.unique {answers : Nat → Bool} {a : Act α} {steps steps' : List Step}
    {result result' : Except Payload α} (h : a.Runs steps result) (h' : a.Runs steps' result')
    (hheeds : Heeds answers steps) (hheeds' : Heeds answers steps') :
    steps = steps' ∧ result = result' := by
  induction a generalizing answers steps steps' with
  | done value =>
    obtain ⟨rfl, rfl⟩ := h
    obtain ⟨rfl, rfl⟩ := h'
    exact ⟨rfl, rfl⟩
  | panic payload =>
    obtain ⟨rfl, rfl⟩ := h
    obtain ⟨rfl, rfl⟩ := h'
    exact ⟨rfl, rfl⟩
  | poll rest ih =>
    obtain ⟨_, more, rfl, hrest⟩ := h
    obtain ⟨_, more', rfl, hrest'⟩ := h'
    obtain ⟨rfl, hmore⟩ := heeds_poll.mp hheeds
    obtain ⟨rfl, hmore'⟩ := heeds_poll.mp hheeds'
    obtain ⟨rfl, hresult⟩ := ih _ hrest hrest' hmore hmore'
    exact ⟨rfl, hresult⟩
  | mark _ rest ih | log _ rest ih | wait _ rest ih | pause rest ih | share rest ih =>
    obtain ⟨more, rfl, h⟩ := h
    obtain ⟨more', rfl, h'⟩ := h'
    obtain ⟨rfl, hresult⟩ := ih h h' ((heeds_cons rfl).mp hheeds) ((heeds_cons rfl).mp hheeds')
    exact ⟨rfl, hresult⟩

/-- Where every poll is answered alike, the run is the one that is shown for this answer. -/
theorem Runs.run_eq {cancelled : Bool} {a : Act α} {steps : List Step}
    {result : Except Payload α} (h : a.Runs steps result)
    (hheeds : Heeds (fun _ => cancelled) steps) :
    a.run cancelled = ⟨result, steps.filterMap Step.mark?, steps.filterMap Step.event?⟩ := by
  induction a generalizing steps with
  | done value =>
    obtain ⟨rfl, rfl⟩ := h
    rfl
  | panic payload =>
    obtain ⟨rfl, rfl⟩ := h
    rfl
  | poll rest ih =>
    obtain ⟨_, more, rfl, hrest⟩ := h
    obtain ⟨rfl, hmore⟩ := heeds_poll.mp hheeds
    rw [run, ih _ hrest hmore]
    rfl
  | mark _ rest ih | log _ rest ih | wait _ rest ih | pause rest ih | share rest ih =>
    obtain ⟨more, rfl, h⟩ := h
    rw [run, ih h ((heeds_cons rfl).mp hheeds)]
    rfl

end RequestBridge.Act
