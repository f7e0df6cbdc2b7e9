import RequestBridge.Proofs.Routing.Series

/-! The phases of a router.

Nothing is added to a router but while it is being built, and its phase changes in three ways
only. So a router is sealed if and only if it is started (`Steps.sound`), and one that is started
stays as it is (`Steps.of_started`). -/
namespace RequestBridge

/-- One phase follows the other by a single change. -/
inductive Phase.Leads : Phase → Phase → Prop
  | begins : Leads .building .starting
  | commits : Leads .starting .started
  | goesBack : Leads .starting .building

theorem Transition.leads (t : Transition) : t.source.Leads t.target := by
  cases t with
  | begin => exact .begins
  | commit => exact .commits
  | rollback => exact .goesBack

namespace Router
variable {r r' r'' : Router}

/-- A router that is sealed if and only if it is started. -/
def Sound (r : Router) : Prop := r.registry.isSealed = true ↔ r.phase = .started

theorem sound_new (table : Address) : Sound { table } :=
  iff_of_false Bool.false_ne_true (fun h => nomatch h)

theorem Sound.open (h : r.Sound) (hphase : r.phase = .building) : r.registry.isSealed = false := by
  refine Bool.eq_false_iff.mpr ?_
  intro hsealed
  cases hphase.symm.trans (h.mp hsealed)

/-- A router after additions: it is as it was, or it was being built and still is. -/
def Grows (r r' : Router) : Prop :=
  r' = r ∨ (r.phase = .building ∧ r'.phase = .building ∧
    r'.registry.isSealed = r.registry.isSealed ∧ r'.table = r.table)

theorem Grows.refl (r : Router) : Grows r r := .inl rfl

theorem Grows.trans (h : Grows r r') (h' : Grows r' r'') : Grows r r'' := by
  rcases h' with rfl | ⟨hphase', hphase'', hsealed', htable'⟩
  · exact h
  · rcases h with rfl | ⟨hphase, _, hsealed, htable⟩
    · exact .inr ⟨hphase', hphase'', hsealed', htable'⟩
    · exact .inr ⟨hphase, hphase'', hsealed'.trans hsealed, htable'.trans htable⟩

/-- A router after an addition or a change of phase. -/
def Steps (r r' : Router) : Prop := Grows r r' ∨ ∃ t, r.change t = .ok r'

theorem Steps.refl (r : Router) : Steps r r := .inl (.refl r)

theorem Grows.steps (h : Grows r r') : Steps r r' := .inl h

/-- A router after a change of phase that is allowed. -/
def after (r : Router) (t : Transition) : Router :=
  { r with
    phase := t.target
    registry := if t = .commit then r.registry.close else r.registry }

theorem change_of_source {t : Transition} (h : r.phase = t.source) :
    r.change t = .ok (r.after t) := by
  rw [change, if_pos h]
  rfl

theorem change_of_ne_source {t : Transition} (h : r.phase ≠ t.source) :
    r.change t = .error (.wrongPhase t r.phase) := by
  rw [change, if_neg h]

theorem change_eq_ok {t : Transition} (h : r.change t = .ok r') :
    r.phase = t.source ∧ r' = r.after t := by
  by_cases hphase : r.phase = t.source
  · rw [change_of_source hphase] at h
    exact ⟨hphase, (Except.ok.inj h).symm⟩
  · rw [change_of_ne_source hphase] at h
    cases h

/-! ### What is added -/

theorem addStage_of_phase (h : r.phase ≠ .building) (stage : Middleware) :
    r.addStage stage = .error (.notBuilding .stage r.phase) := by
  unfold addStage allow
  rw [if_neg h]
  rfl

theorem addStage_eq_ok {stage : Middleware} (h : r.addStage stage = .ok r') :
    r.phase = .building ∧ r' = { r with registry := r.registry.addGlobal stage } := by
  by_cases hphase : r.phase = .building
  · unfold addStage allow at h
    rw [if_pos hphase] at h
    cases hsealed : r.registry.isSealed <;> rw [hsealed] at h <;> cases h
    exact ⟨hphase, rfl⟩
  · rw [addStage_of_phase hphase] at h
    cases h

theorem grows_addStage {stage : Middleware} (h : r.addStage stage = .ok r') : Grows r r' := by
  obtain ⟨hphase, rfl⟩ := addStage_eq_ok h
  exact .inr ⟨hphase, hphase, rfl, rfl⟩

variable {E : Type} [RouteHost E]

theorem grows_addRoute (r : Router) (e : E) (method : Method) (path : String) (route : Route) :
    Grows r (r.addRoute e method path route).router := by
  rcases r.addRoute_cases e method path route with
    ⟨misuse, _, h⟩ | ⟨id, e', hnext, _, h⟩ | ⟨id, e', code, _, _, _, h⟩
  · rw [h]
    exact .refl r
  · have hphase := (nextRoute_eq_ok hnext).1
    rw [h]
    exact .inr ⟨hphase, hphase, rfl, rfl⟩
  · rw [h]
    exact .refl r

theorem grows_addAll (r : Router) (e : E) (xs : List Registration) :
    Grows r (r.addAll e xs).router := by
  induction xs generalizing r e with
  | nil => exact .refl r
  | cons x rest ih =>
    have hfirst := r.grows_addRoute e .get x.path x.route
    rw [addAll]
    dsimp only
    split
    · exact hfirst
    · exact hfirst.trans (ih _ _)

theorem grows_addGroup (r : Router) (e : E) (base : String) (stages : List Middleware)
    (items : List Declaration) : Grows r (r.addGroup e base stages items).router := by
  rw [(r.follows_addGroup e base stages items).1]
  exact r.grows_addAll e _

/-! ### What a step keeps -/

theorem Steps.sound (h : Steps r r') (hsound : r.Sound) : r'.Sound := by
  rcases h with (rfl | ⟨hphase, hphase', hsealed, _⟩) | ⟨t, h⟩
  · exact hsound
  · unfold Sound
    rw [hsealed, hsound.open hphase, hphase']
    exact iff_of_false Bool.false_ne_true (fun h => nomatch h)
  · obtain ⟨hsource, rfl⟩ := change_eq_ok h
    -- no change sets out from the last phase, so the registry was open before
    have hopen : r.registry.isSealed = false := by
      refine Bool.eq_false_iff.mpr ?_
      intro hsealed
      cases t <;> cases hsource.symm.trans (hsound.mp hsealed)
    unfold Sound
    cases t
    · exact iff_of_false (Bool.eq_false_iff.mp hopen) (fun h => nomatch h)
    · exact iff_of_true rfl rfl
    · exact iff_of_false (Bool.eq_false_iff.mp hopen) (fun h => nomatch h)

theorem Steps.phase (h : Steps r r') : r'.phase = r.phase ∨ r.phase.Leads r'.phase := by
  rcases h with (rfl | ⟨hphase, hphase', _⟩) | ⟨t, h⟩
  · exact .inl rfl
  · exact .inl (hphase'.trans hphase.symm)
  · obtain ⟨hsource, rfl⟩ := change_eq_ok h
    rw [hsource]
    exact .inr t.leads

theorem Steps.table (h : Steps r r') : r'.table = r.table := by
  rcases h with (rfl | ⟨_, _, _, htable⟩) | ⟨t, h⟩
  · rfl
  · exact htable
  · obtain ⟨_, rfl⟩ := change_eq_ok h
    rfl

/-- A router that is started never changes again. -/
theorem Steps.of_started (h : Steps r r') (hstarted : r.phase = .started) : r' = r := by
  rcases h with (rfl | ⟨hphase, _⟩) | ⟨t, h⟩
  · rfl
  · cases hstarted.symm.trans hphase
  · cases t <;> cases hstarted.symm.trans (change_eq_ok h).1

end Router
end RequestBridge
