import RequestBridge.Chain.Stages
import RequestBridge.Proofs.Chain.Passage
import Mathlib.Logic.ExistsUnique

/-! The onion law of a chain.

A request goes inwards through the stages of a chain, as far as they pass it on, and what comes of
it goes outwards through the same stages in reverse (`Onion`). Every passage is of this kind
(`Passage.onion`), and so is every run of every pipeline (`stages_nest`). -/
namespace RequestBridge.Chain
open Act (Step)

/-- What one stage can do: it answers or panics at once, or it passes a request on and then comes
out again. -/
inductive OfStage (m : Middleware) : List Doing → Prop
  | answered {request : Request} {steps : List Step} {outcome : Outcome}
      (hruns : (m.enter request).Runs steps (.ok (.answer outcome))) :
      OfStage m (entering request steps (.leave outcome))
  | failed {request : Request} {steps : List Step} {payload : Payload}
      (hruns : (m.enter request).Runs steps (.error payload)) :
      OfStage m (entering request steps (.panic payload))
  | passed {request passed : Request} {steps : List Step} {after : Outcome → Act Outcome}
      {within result : Except Payload Outcome} {out : List Doing}
      (hruns : (m.enter request).Runs steps (.ok (.forward passed after)))
      (hexit : Exit after within out result) :
      OfStage m (entering request steps (.call passed) ++ out)

/-- What a handler does. -/
inductive OfHandler (h : Handler) : List Doing → Prop
  | handled {request : Request} {steps : List Step} {result : Except Payload Outcome}
      (hruns : (h request).Runs steps result) : OfHandler h (entering request steps (.last result))

/-- The stage at a place is entered and takes its steps, then all is done that is done further
inside, and then the stage goes on with the outcome with which the next place was left. Nothing
follows a panic. -/
structure Nested (deeds : List Deed) (place : Nat) (passed : Request)
    (before inner after : List Deed) : Prop where
  split : deeds = before ++ ⟨place, .call passed⟩ :: (inner ++ after)
  not_before : ∀ d ∈ before, d.place ≤ place
  inside : ∀ d ∈ inner, place < d.place
  not_after : ∀ d ∈ after, d.place ≤ place
  inward : ∃ request, ∃ steps : List Step,
    doingsAt place before = .enter request :: steps.map .step
  outward : doingsAt place after = [] ∨
    ∃ outcome steps result, doingsAt place after = resuming outcome steps result
  begins : inner.head? = some ⟨place + 1, .enter passed⟩
  ends : (∃ outcome, inner.getLast? = some ⟨place + 1, .leave outcome⟩ ∧
      after.head? = some ⟨place, .resume outcome⟩) ∨
    ∃ deepest payload, inner.getLast? = some ⟨deepest, .panic payload⟩ ∧ after = []

/-- The deeds of a request that goes through a chain as through the layers of an onion. -/
structure Onion (p : Pipeline) (request : Request) (deeds : List Deed)
    (result : Except Payload Outcome) : Prop where
  begins : deeds.head? = some ⟨0, .enter request⟩
  /-- A place is entered with the request that the place before it has passed on. -/
  entered : entries deeds = (0, request) :: (calls deeds).map fun c => (c.1 + 1, c.2)
  /-- The stages that pass a request on are the outermost ones, in order, each once. -/
  called : (calls deeds).map Prod.fst = List.range (calls deeds).length
  within : (calls deeds).length ≤ p.stages.length
  places : ∀ d ∈ deeds, d.place ≤ (calls deeds).length
  stage : ∀ i m, p.stages[i]? = some m → i ≤ (calls deeds).length → OfStage m (doingsAt i deeds)
  handler : (calls deeds).length = p.stages.length →
    OfHandler p.handler (doingsAt p.stages.length deeds)
  nested : ∀ i passed, ⟨i, .call passed⟩ ∈ deeds →
    ∃ before inner after, Nested deeds i passed before inner after
  /-- Where nothing panics, all stages that have passed a request on go on, in reverse. -/
  returned : ∀ outcome, result = .ok outcome →
    (resumes deeds).map Prod.fst = (List.range (calls deeds).length).reverse ∧
      deeds.getLast? = some ⟨0, .leave outcome⟩
  /-- A panic is the end of all, and no stage outside it goes on. -/
  panicked : ∀ i payload, ⟨i, .panic payload⟩ ∈ deeds → result = .error payload ∧
    (resumes deeds).map Prod.fst = ((List.range (calls deeds).length).drop i).reverse ∧
      deeds.getLast? = some ⟨i, .panic payload⟩
  panics : ∀ payload, result = .error payload → ∃ i, ⟨i, .panic payload⟩ ∈ deeds

/-- The places that are entered are the outermost ones, in order, each once. -/
theorem Onion.entered_places {p : Pipeline} {request : Request} {deeds : List Deed}
    {result : Except Payload Outcome} (ho : Onion p request deeds result) :
    (entries deeds).map Prod.fst = List.range ((calls deeds).length + 1) := by
  rw [ho.entered, List.range_succ_eq_map, ← ho.called, List.map_cons, List.map_map, List.map_map]
  rfl

/-- The handler is entered if and only if every stage has passed a request on. -/
theorem Onion.handled_iff {p : Pipeline} {request : Request} {deeds : List Deed}
    {result : Except Payload Outcome} (ho : Onion p request deeds result) :
    p.stages.length ∈ (entries deeds).map Prod.fst ↔ (calls deeds).length = p.stages.length := by
  have hwithin := ho.within
  rw [ho.entered_places, List.mem_range]
  omega

/-! ### A request that turns at once -/

theorem panic_mem_entering {request : Request} {steps : List Step} {next : Doing}
    {payload : Payload} (h : .panic payload ∈ entering request steps next) :
    next = .panic payload := by
  simpa [entering, eq_comm] using h

theorem panic_eq_last {result : Except Payload Outcome} {payload : Payload}
    (h : Doing.last result = .panic payload) : result = .error payload := by
  cases result with
  | ok outcome => cases h
  | error payload' =>
    cases h
    rfl

theorem getLast?_entering (request : Request) (steps : List Step) (next : Doing) :
    (here (entering request steps next)).getLast? = some ⟨0, next⟩ := by
  simp [here, entering, List.getLast?_cons, List.getLast?_append]

theorem calls_turned (request : Request) (steps : List Step) (result : Except Payload Outcome) :
    calls (here (entering request steps (.last result))) = [] := by
  rw [calls, pick_here, filterMap_entering fun _ => rfl]
  cases result <;> rfl

theorem onion_turned {h : Handler} {ms : List Middleware} {request : Request} {steps : List Step}
    {result : Except Payload Outcome} (hturns : Turns h request ms steps result) :
    Onion ⟨ms, h⟩ request (here (entering request steps (.last result))) result := by
  have hentries : entries (here (entering request steps (.last result))) = [(0, request)] := by
    rw [entries, pick_here, filterMap_entering fun _ => rfl]
    cases result <;> rfl
  have hcalls := calls_turned request steps result
  have hresumes : resumes (here (entering request steps (.last result))) = [] := by
    rw [resumes, pick_here, filterMap_entering fun _ => rfl]
    cases result <;> rfl
  have hlast := getLast?_entering request steps (.last result)
  refine ⟨rfl, ?_, ?_, ?_, ?_, ?_, ?_, ?_, ?_, ?_, ?_⟩
  · rw [hentries, hcalls]
    rfl
  · rw [hcalls]
    rfl
  · rw [hcalls]
    exact Nat.zero_le _
  · intro d hd
    rw [(mem_here.mp hd).1]
    exact Nat.zero_le _
  · intro i m hm hi
    rw [hcalls] at hi
    obtain rfl := Nat.le_zero.mp hi
    rw [doingsAt_here]
    cases hturns with
    | handled hruns => cases hm
    | answered hruns =>
      cases hm
      exact .answered hruns
    | failed hruns =>
      cases hm
      exact .failed hruns
  · intro hall
    rw [hcalls] at hall
    cases hturns with
    | handled hruns =>
      rw [List.length_nil, doingsAt_here]
      exact .handled hruns
    | answered hruns => cases hall
    | failed hruns => cases hall
  · intro i passed hcall
    have hmem : (i, passed) ∈ calls (here (entering request steps (.last result))) :=
      List.mem_filterMap.mpr ⟨_, hcall, rfl⟩
    rw [hcalls] at hmem
    cases hmem
  · rintro outcome rfl
    rw [hcalls, hresumes]
    exact ⟨rfl, hlast⟩
  · intro i payload hpanic
    obtain ⟨rfl, hmem⟩ := mem_here.mp hpanic
    have hresult := panic_eq_last (panic_mem_entering hmem)
    subst hresult
    rw [hcalls, hresumes]
    exact ⟨rfl, rfl, hlast⟩
  · rintro payload rfl
    exact ⟨0, List.mem_of_getLast? hlast⟩

/-! ### A request that is passed on -/

section Passed
variable {after : Outcome → Act Outcome} {within result : Except Payload Outcome}
  {request passed : Request} {steps : List Step} {inner : List Deed} {out : List Doing}

theorem Exit.filterMap_eq_nil (hexit : Exit after within out result) {α : Type}
    (kind : Doing → Option α) (hsteps : ∀ s, kind (.step s) = none)
    (hresume : ∀ outcome, kind (.resume outcome) = none)
    (hlast : ∀ result, kind (.last result) = none) : out.filterMap kind = [] := by
  cases hexit with
  | unwound payload => rfl
  | resumed hmore =>
    rw [filterMap_resuming hsteps, hresume, hlast]
    rfl

theorem Exit.entries_around (hexit : Exit after within out result) :
    entries (around request steps passed inner out) =
      (0, request) :: (entries inner).map fun x => (x.1 + 1, x.2) := by
  have hout := hexit.filterMap_eq_nil Doing.enter? (fun _ => rfl) (fun _ => rfl)
    (by rintro (_ | _) <;> rfl)
  rw [entries, pick_around fun _ => rfl, hout, List.map_nil, List.append_nil]
  rfl

theorem Exit.calls_around (hexit : Exit after within out result) :
    calls (around request steps passed inner out) =
      (0, passed) :: (calls inner).map fun x => (x.1 + 1, x.2) := by
  have hout := hexit.filterMap_eq_nil Doing.call? (fun _ => rfl) (fun _ => rfl)
    (by rintro (_ | _) <;> rfl)
  rw [calls, pick_around fun _ => rfl, hout, List.map_nil, List.append_nil]
  rfl

theorem Exit.length_calls_around (hexit : Exit after within out result) :
    (calls (around request steps passed inner out)).length = (calls inner).length + 1 := by
  rw [hexit.calls_around, List.length_cons, List.length_map]

theorem resumes_around_nil : resumes (around request steps passed inner []) =
    (resumes inner).map fun x => (x.1 + 1, x.2) := by
  rw [resumes, pick_around fun _ => rfl, List.filterMap_nil, List.map_nil, List.append_nil]
  rfl

theorem resumes_around_resuming (outcome : Outcome) (more : List Step) :
    resumes (around request steps passed inner (resuming outcome more result)) =
      (resumes inner).map (fun x => (x.1 + 1, x.2)) ++ [(0, outcome)] := by
  rw [resumes, pick_around fun _ => rfl, filterMap_resuming fun _ => rfl]
  cases result <;> rfl

theorem Exit.result_of_panic (hexit : Exit after within out result) {payload : Payload}
    (h : .panic payload ∈ out) : result = .error payload := by
  cases hexit with
  | unwound _ => cases h
  | resumed hmore => exact panic_eq_last (by simpa [resuming, eq_comm] using h)

theorem getLast?_deeper (ds : List Deed) :
    (deeper ds).getLast? = ds.getLast?.map fun d => ⟨d.place + 1, d.doing⟩ :=
  List.getLast?_map

theorem getLast?_around_nil {last : Deed} (h : inner.getLast? = some last) :
    (around request steps passed inner []).getLast? = some ⟨last.place + 1, last.doing⟩ := by
  rw [around, List.getLast?_append, List.getLast?_append, getLast?_deeper, h]
  rfl

theorem getLast?_around_resuming (outcome : Outcome) (more : List Step) :
    (around request steps passed inner (resuming outcome more result)).getLast? =
      some ⟨0, .last result⟩ := by
  have hlast : (here (resuming outcome more result)).getLast? = some ⟨0, .last result⟩ := by
    simp [here, resuming, List.getLast?_cons, List.getLast?_append]
  rw [around, List.getLast?_append, List.getLast?_append, hlast]
  rfl

/-- The calls further inside are nested as they were, with one more stage around them. -/
theorem nested_around {i : Nat} {passed' : Request} {before within after : List Deed}
    (hn : Nested inner i passed' before within after)
    (hout : (∃ d ∈ inner, ∃ payload, d.doing = .panic payload) → out = []) :
    Nested (around request steps passed inner out) (i + 1) passed'
      (here (entering request steps (.call passed)) ++ deeper before) (deeper within)
      (deeper after ++ here out) where
  split := by
    rw [around, hn.split]
    simp [deeper]
  not_before d hd := by
    rcases List.mem_append.mp hd with hd | hd
    · rw [(mem_here.mp hd).1]
      exact Nat.zero_le _
    · obtain ⟨k, hplace, hmem⟩ := mem_deeper.mp hd
      rw [hplace]
      exact Nat.succ_le_succ (hn.not_before _ hmem)
  inside d hd := by
    obtain ⟨k, hplace, hmem⟩ := mem_deeper.mp hd
    rw [hplace]
    exact Nat.succ_lt_succ (hn.inside _ hmem)
  not_after d hd := by
    rcases List.mem_append.mp hd with hd | hd
    · obtain ⟨k, hplace, hmem⟩ := mem_deeper.mp hd
      rw [hplace]
      exact Nat.succ_le_succ (hn.not_after _ hmem)
    · rw [(mem_here.mp hd).1]
      exact Nat.zero_le _
  inward := by
    rw [doingsAt_append, doingsAt_succ_here, doingsAt_deeper]
    exact hn.inward
  outward := by
    rw [doingsAt_append, doingsAt_succ_here, doingsAt_deeper, List.append_nil]
    exact hn.outward
  begins := by
    rw [deeper, List.head?_map, hn.begins]
    rfl
  ends := by
    rcases hn.ends with ⟨outcome, hlast, hresume⟩ | ⟨deepest, payload, hlast, rfl⟩
    · refine .inl ⟨outcome, ?_, ?_⟩
      · rw [getLast?_deeper, hlast]
        rfl
      · rw [List.head?_append, deeper, List.head?_map, hresume]
        rfl
    · refine .inr ⟨deepest + 1, payload, ?_, ?_⟩
      · rw [getLast?_deeper, hlast]
        rfl
      · have hmem : (⟨deepest, .panic payload⟩ : Deed) ∈ inner := by
          rw [hn.split]
          exact List.mem_append_right _
            (List.mem_cons_of_mem _ (List.mem_append_left _ (List.mem_of_getLast? hlast)))
        rw [hout ⟨_, hmem, payload, rfl⟩]
        rfl

variable {p : Pipeline}

/-- The call of the outermost stage has all that lies inside nested in it. -/
theorem nested_outermost (ho : Onion p passed inner within) (hexit : Exit after within out result) :
    Nested (around request steps passed inner out) 0 passed
      (here (.enter request :: steps.map .step)) (deeper inner) (here out) where
  split := by simp [around, here, entering]
  not_before d hd := Nat.le_of_eq (mem_here.mp hd).1
  inside d hd := by
    obtain ⟨i, hplace, _⟩ := mem_deeper.mp hd
    rw [hplace]
    exact Nat.succ_pos i
  not_after d hd := Nat.le_of_eq (mem_here.mp hd).1
  inward := ⟨request, steps, doingsAt_here _⟩
  outward := by
    rw [doingsAt_here]
    cases hexit with
    | unwound payload => exact .inl rfl
    | resumed hmore => exact .inr ⟨_, _, _, rfl⟩
  begins := by
    rw [deeper, List.head?_map, ho.begins]
    rfl
  ends := by
    cases hexit with
    | unwound payload =>
      obtain ⟨i, hpanic⟩ := ho.panics payload rfl
      refine .inr ⟨i + 1, payload, ?_, rfl⟩
      rw [getLast?_deeper, (ho.panicked i payload hpanic).2.2]
      rfl
    | @resumed outcome more _ hmore =>
      refine .inl ⟨outcome, ?_, rfl⟩
      rw [getLast?_deeper, (ho.returned outcome rfl).2]
      rfl

theorem map_fst_up {α : Type} (xs : List (Nat × α)) :
    (xs.map fun x => (x.1 + 1, x.2)).map Prod.fst = (xs.map Prod.fst).map (· + 1) := by
  rw [List.map_map, List.map_map]
  rfl

theorem panic_mem_around {i : Nat} {payload : Payload}
    (h : ⟨i, .panic payload⟩ ∈ around request steps passed inner out) :
    (∃ k, i = k + 1 ∧ ⟨k, .panic payload⟩ ∈ inner) ∨ (i = 0 ∧ .panic payload ∈ out) := by
  rcases mem_around.mp h with h | h | h
  · cases panic_mem_entering (mem_here.mp h).2
  · exact .inl (mem_deeper.mp h)
  · exact .inr (mem_here.mp h)

theorem call_mem_around (hexit : Exit after within out result) {i : Nat} {passed' : Request}
    (h : ⟨i, .call passed'⟩ ∈ around request steps passed inner out) :
    (i = 0 ∧ passed' = passed) ∨ ∃ k, i = k + 1 ∧ ⟨k, .call passed'⟩ ∈ inner := by
  rcases mem_around.mp h with h | h | h
  · obtain ⟨hplace, hmem⟩ := mem_here.mp h
    exact .inl ⟨hplace, by simpa [entering] using hmem⟩
  · exact .inr (mem_deeper.mp h)
  · have hmem : passed' ∈ out.filterMap Doing.call? :=
      List.mem_filterMap.mpr ⟨_, (mem_here.mp h).2, rfl⟩
    rw [hexit.filterMap_eq_nil Doing.call? (fun _ => rfl) (fun _ => rfl)
      (by rintro (_ | _) <;> rfl)] at hmem
    cases hmem

theorem nested_call (ho : Onion p passed inner within) (hexit : Exit after within out result)
    {i : Nat} {passed' : Request}
    (hcall : ⟨i, .call passed'⟩ ∈ around request steps passed inner out) :
    ∃ before deep rest,
      Nested (around request steps passed inner out) i passed' before deep rest := by
  rcases call_mem_around hexit hcall with ⟨rfl, rfl⟩ | ⟨k, rfl, hinner⟩
  · exact ⟨_, _, _, nested_outermost ho hexit⟩
  · obtain ⟨before, deep, rest, hn⟩ := ho.nested k passed' hinner
    refine ⟨_, _, _, nested_around hn ?_⟩
    rintro ⟨⟨place, _⟩, hpanic, payload, rfl⟩
    have hwithin := (ho.panicked place payload hpanic).1
    cases hexit with
    | unwound _ => rfl
    | resumed hmore => cases hwithin

theorem resumes_returned {outcome : Outcome} (ho : Onion p passed inner (.ok outcome)) (more : List Step) :
    (resumes (around request steps passed inner (resuming outcome more result))).map Prod.fst =
      (0 :: (List.range (calls inner).length).map (· + 1)).reverse := by
  rw [resumes_around_resuming, List.map_append, map_fst_up, (ho.returned outcome rfl).1,
    List.reverse_cons, List.map_reverse]
  rfl

theorem panicked_around (ho : Onion p passed inner within) (hexit : Exit after within out result)
    {i : Nat} {payload : Payload}
    (hpanic : ⟨i, .panic payload⟩ ∈ around request steps passed inner out) :
    result = .error payload ∧
      (resumes (around request steps passed inner out)).map Prod.fst =
        ((0 :: (List.range (calls inner).length).map (· + 1)).drop i).reverse ∧
      (around request steps passed inner out).getLast? = some ⟨i, .panic payload⟩ := by
  rcases panic_mem_around hpanic with ⟨k, rfl, hinner⟩ | ⟨rfl, hout⟩
  · obtain ⟨hwithin, hresumes, hlast⟩ := ho.panicked k payload hinner
    subst hwithin
    cases hexit with
    | unwound _ =>
      refine ⟨rfl, ?_, getLast?_around_nil hlast⟩
      rw [resumes_around_nil, map_fst_up, hresumes, List.map_reverse, List.map_drop]
      rfl
  · have hresult := hexit.result_of_panic hout
    subst hresult
    cases hexit with
    | unwound _ => cases hout
    | resumed hmore => exact ⟨rfl, resumes_returned ho _, getLast?_around_resuming _ _⟩

theorem onion_passed {h : Handler} {m : Middleware} {ms : List Middleware}
    (hruns : (m.enter request).Runs steps (.ok (.forward passed after)))
    (ho : Onion ⟨ms, h⟩ passed inner within) (hexit : Exit after within out result) :
    Onion ⟨m :: ms, h⟩ request (around request steps passed inner out) result := by
  have hlength : (calls (around request steps passed inner out)).length =
      (calls inner).length + 1 := hexit.length_calls_around
  have hrange : List.range ((calls inner).length + 1) =
      0 :: (List.range (calls inner).length).map (· + 1) := List.range_succ_eq_map
  refine ⟨rfl, ?_, ?_, ?_, ?_, ?_, ?_, fun _ _ => nested_call ho hexit, ?_, ?_, ?_⟩
  · rw [hexit.entries_around, hexit.calls_around, ho.entered]
  · rw [hlength, hexit.calls_around, List.map_cons, map_fst_up, ho.called, hrange]
  · rw [hlength]
    exact Nat.succ_le_succ ho.within
  · intro d hd
    rw [hlength]
    rcases mem_around.mp hd with hd | hd | hd
    · exact (mem_here.mp hd).1 ▸ Nat.zero_le _
    · obtain ⟨k, hplace, hmem⟩ := mem_deeper.mp hd
      exact hplace ▸ Nat.succ_le_succ (ho.places _ hmem)
    · exact (mem_here.mp hd).1 ▸ Nat.zero_le _
  · intro i m' hm hi
    rw [hlength] at hi
    cases i with
    | zero =>
      cases hm
      rw [doingsAt_zero_around]
      exact .passed hruns hexit
    | succ i =>
      rw [doingsAt_succ_around]
      exact ho.stage i m' hm (Nat.le_of_succ_le_succ hi)
  · intro hall
    rw [hlength] at hall
    rw [List.length_cons, doingsAt_succ_around]
    exact ho.handler (Nat.succ.inj hall)
  · rintro outcome rfl
    rw [hlength, hrange]
    cases hexit with
    | resumed hmore => exact ⟨resumes_returned ho _, getLast?_around_resuming _ _⟩
  · intro i payload hpanic
    rw [hlength, hrange]
    exact panicked_around ho hexit hpanic
  · rintro payload rfl
    cases hexit with
    | unwound _ =>
      obtain ⟨i, hpanic⟩ := ho.panics payload rfl
      exact ⟨i + 1, mem_around_of_inner hpanic⟩
    | resumed hmore => exact ⟨0, List.mem_of_getLast? (getLast?_around_resuming _ _)⟩

end Passed

theorem Passage.onion {h : Handler} {ms : List Middleware} {request : Request} {deeds : List Deed}
    {result : Except Payload Outcome} (hpassage : Passage h ms request deeds result) :
    Onion ⟨ms, h⟩ request deeds result := by
  induction hpassage with
  | turned hturns => exact onion_turned hturns
  | passed hruns hinner hexit ih => exact onion_passed hruns ih hexit

/-! ### Tracing stages -/

theorem runs_tracing {inner : Handler} {request : Request} {steps : List Step} {outcome : Outcome}
    (hruns : (inner request).Runs steps (.ok outcome)) (name : String) :
    (((Middleware.tracing name).around inner) request).Runs
      (.mark (name ++ ">") :: (steps ++ [.mark ("<" ++ name)])) (.ok outcome) := by
  refine ⟨_, rfl, (Act.runs_bind_iff (a := inner request)).mpr (.inr ?_)⟩
  exact ⟨outcome, steps, _, hruns, ⟨[], rfl, rfl, rfl⟩, rfl⟩

theorem runs_tracings {h : Handler} {request : Request} {steps : List Step} {outcome : Outcome}
    (hruns : (h request).Runs steps (.ok outcome)) (names : List String) :
    ((Pipeline.mk (names.map Middleware.tracing) h).start request).Runs
      (names.map (fun name => .mark (name ++ ">")) ++
        (steps ++ names.reverse.map fun name => .mark ("<" ++ name))) (.ok outcome) := by
  induction names with
  | nil => exact (List.append_nil steps).symm ▸ hruns
  | cons name names ih =>
    have htraced := runs_tracing ih name
    rw [List.append_assoc, List.append_assoc] at htraced
    rw [List.reverse_cons, List.map_append]
    exact htraced

/-! ### The law -/

/-- A request goes through a pipeline as through the layers of an onion. Whatever the polls of the
stages and of the handler are answered, there is one run, and its steps are the deeds of a passage
inwards through the outermost stages, each with the request that the one before has passed on, up to
the first that passes none on or to the handler, and outwards through the same stages in reverse,
each with the outcome of the one inside it, up to the first panic. In particular the marks of
tracing stages stand around those of a handler that returns. -/
theorem stages_nest (p : Pipeline) (request : Request) :
    (∀ answers : Nat → Bool, ∃! run : List Step × Except Payload Outcome,
      (p.start request).Runs run.1 run.2 ∧ Act.Heeds answers run.1) ∧
    (∀ steps result, (p.start request).Runs steps result →
      ∃ deeds, stepsOf deeds = steps ∧ Onion p request deeds result ∧
        (entries deeds).map Prod.fst = List.range ((calls deeds).length + 1) ∧
        (p.stages.length ∈ (entries deeds).map Prod.fst ↔
          (calls deeds).length = p.stages.length)) ∧
    (∀ (names : List String) steps outcome, (p.handler request).Runs steps (.ok outcome) →
      ((Pipeline.mk (names.map Middleware.tracing) p.handler).start request).Runs
        (names.map (fun name => .mark (name ++ ">")) ++
          (steps ++ names.reverse.map fun name => .mark ("<" ++ name))) (.ok outcome)) := by
  refine ⟨fun answers => ?_, fun steps result hruns => ?_, fun names steps outcome hruns => ?_⟩
  · obtain ⟨steps, result, hruns, hheeds⟩ := Act.exists_run answers (p.start request)
    refine ⟨(steps, result), ⟨hruns, hheeds⟩, ?_⟩
    rintro ⟨steps', result'⟩ ⟨hruns', hheeds'⟩
    obtain ⟨rfl, rfl⟩ := hruns.unique hruns' hheeds hheeds'
    rfl
  · obtain ⟨deeds, hpassage, hsteps⟩ := exists_passage hruns
    have ho := hpassage.onion
    exact ⟨deeds, hsteps, ho, ho.entered_places, ho.handled_iff⟩
  · exact runs_tracings hruns names

/-- A stage that panics on the way out, inside a stage that polls and a stage that traces. -/
theorem stages_nest_around_panic :
    let h : Handler := fun request => .mark "H" (.done (.ok ⟨200, request.body⟩))
    let p : Pipeline :=
      ⟨[.tracing "a", .checkingBefore "b", .panickingAfter "c" (.text "late")], h⟩
    let request : Request := ⟨.get, "/", [7]⟩
    let steps : List Step := [.mark "a>", .poll false, .mark "H"]
    (p.start request).Runs steps (.error (.text "late")) ∧
      (∃ deeds, stepsOf deeds = steps ∧ Onion p request deeds (.error (.text "late"))) ∧
      ((Pipeline.mk (["a", "b"].map Middleware.tracing) h).start request).Runs
        [.mark "a>", .mark "b>", .mark "H", .mark "<b", .mark "<a"] (.ok (.ok ⟨200, [7]⟩)) := by
  intro h p request steps
  obtain ⟨-, hnested, htraced⟩ := stages_nest p request
  have hruns : (p.start request).Runs steps (.error (.text "late")) :=
    ⟨_, rfl, false, _, rfl, _, rfl, rfl, rfl⟩
  obtain ⟨deeds, hsteps, ho, -⟩ := hnested steps _ hruns
  refine ⟨hruns, ⟨deeds, hsteps, ho⟩, ?_⟩
  exact htraced ["a", "b"] [.mark "H"] (.ok ⟨200, [7]⟩) ⟨_, rfl, rfl, rfl⟩

end RequestBridge.Chain
