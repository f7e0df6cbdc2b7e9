import RequestBridge.Proofs.Bridge.Ledger

/-! Every request ends once.

The contexts of the requests that were handed over are shared out between the requests in flight
and the terminal actions that were taken: none is lost, and none is in two places
(`Ledger.shared`). All that is said here of the ends of requests is read off this balance. -/
namespace RequestBridge

theorem Engine.terminalCount_eq (e : Engine) (c : Address) :
    e.terminalCount c = (e.terminals.map Terminal.context).count c := by
  rw [terminalCount, List.count, List.countP_map]
  rfl

namespace Bridge
open Occurrence

/-- The contexts of the requests whose tasks have not ended. -/
def inFlight (b : Bridge) : List Address := b.tasks.filterMap (·.context)

/-- The contexts that were handed over are in flight or have ended. -/
theorem Ledger.shared {os : List Occurrence} {b : Bridge} (l : Ledger os b) :
    (b.inFlight ++ b.engine.terminals.map Terminal.context).Perm (newContexts os) := by
  have hended : b.engine.terminals.map Terminal.context = (departures os).filterMap (·.context) := by
    rw [l.terminals, Occurrence.terminals, List.map_filterMap]
    refine List.filterMap_congr ?_
    intro d _
    cases hc : d.context <;> simp [Departure.terminal?, hc]
  have hperm := l.conserved.filterMap (·.1)
  rw [List.filterMap_append, List.filterMap_map, List.filterMap_map, List.filterMap_map] at hperm
  rw [hended]
  exact hperm

theorem Ledger.count_add {os : List Occurrence} {b : Bridge} (l : Ledger os b) (c : Address) :
    b.inFlight.count c + b.engine.terminalCount c = (newContexts os).count c := by
  rw [b.engine.terminalCount_eq, ← List.count_append]
  exact l.shared.count_eq c

/-- Of the given contexts, each has ended exactly once, unless its request is in flight; nothing
else has ended, and what has not ended is known in the order of the addresses. -/
structure EndsOnce (contexts : List Address) (b : Bridge) : Prop where
  atMostOnce : ∀ c, b.engine.terminalCount c ≤ 1
  ended : ∀ c ∈ contexts, c ∉ b.inFlight → b.engine.terminalCount c = 1
  pending : ∀ c ∈ b.inFlight, c ∈ contexts ∧ b.engine.terminalCount c = 0
  foreign : ∀ c, c ∉ contexts → b.engine.terminalCount c = 0
  issued : b.engine.issued.reverse = contexts
  unterminated : b.engine.unterminated = contexts.filter (· ∈ b.inFlight)
  ascending : b.engine.unterminated.Pairwise (· < ·)

theorem Ledger.endsOnce {os : List Occurrence} {b : Bridge} (l : Ledger os b) :
    EndsOnce (newContexts os) b := by
  have hnodup := l.contexts.nodup
  have hissued : b.engine.issued.reverse = newContexts os := by rw [l.issued, List.reverse_reverse]
  have hone : ∀ c ∈ newContexts os, b.inFlight.count c + b.engine.terminalCount c = 1 := by
    intro c hc
    rw [l.count_add, List.count_eq_one_of_mem hnodup hc]
  have hmem : ∀ c ∈ b.inFlight, c ∈ newContexts os := by
    intro c hc
    exact l.shared.mem_iff.mp (List.mem_append_left _ hc)
  have hunterminated : b.engine.unterminated = (newContexts os).filter (· ∈ b.inFlight) := by
    show b.engine.issued.reverse.filter _ = _
    rw [hissued]
    refine List.filter_congr ?_
    intro c hc
    have hcount := hone c hc
    rw [b.engine.terminalCount_eq] at hcount
    by_cases hflight : c ∈ b.inFlight
    · have hpos := List.count_pos_iff.mpr hflight
      have hzero : (b.engine.terminals.map Terminal.context).count c = 0 := by omega
      simp [hflight, List.count_eq_zero.mp hzero]
    · rw [List.count_eq_zero.mpr hflight] at hcount
      have hpos : 0 < (b.engine.terminals.map Terminal.context).count c := by omega
      simp [hflight, List.count_pos_iff.mp hpos]
  refine ⟨?_, ?_, ?_, ?_, hissued, hunterminated, ?_⟩
  · intro c
    have hle := List.nodup_iff_count_le_one.mp hnodup c
    rw [← l.count_add] at hle
    exact Nat.le_trans (Nat.le_add_left ..) hle
  · intro c hc hflight
    have hcount := hone c hc
    rwa [List.count_eq_zero.mpr hflight, Nat.zero_add] at hcount
  · intro c hc
    refine ⟨hmem c hc, ?_⟩
    have hcount := hone c (hmem c hc)
    have hpos := List.count_pos_iff.mpr hc
    omega
  · intro c hc
    have hcount := l.count_add c
    rw [List.count_eq_zero.mpr hc] at hcount
    exact Nat.eq_zero_of_add_eq_zero_left hcount
  · rw [hunterminated]
    exact l.contexts.ascending.filter _

/-- A request that has departed has ended. -/
theorem Ledger.departed {os : List Occurrence} {b : Bridge} (l : Ledger os b) {d : Departure}
    (hd : d ∈ departures os) {c : Address} (hc : d.context = some c) :
    b.engine.terminalCount c = 1 := by
  have hle := l.endsOnce.atMostOnce c
  have hmem : d.ending.terminal c d.gone ∈ b.engine.terminals := by
    rw [l.terminals]
    exact List.mem_filterMap.mpr ⟨d, hd, by rw [Departure.terminal?, hc]; rfl⟩
  have hpos : 0 < (b.engine.terminals.map Terminal.context).count c := by
    refine List.count_pos_iff.mpr (List.mem_map.mpr ⟨_, hmem, ?_⟩)
    exact d.ending.context_terminal c d.gone
  rw [b.engine.terminalCount_eq] at hle ⊢
  omega

theorem Ledger.departs {os os' : List Occurrence} {b b' : Bridge} (l : Ledger os b)
    (h : Happens b os' b') {d : Departure} (hd : d ∈ departures os') {c : Address}
    (hc : d.context = some c) : b'.engine.terminalCount c = 1 := by
  refine (l.step h).departed ?_ hc
  rw [departures_append]
  exact List.mem_append_right _ hd

/-! ### Where tasks run no more -/

theorem discards_tasks (ts : List Task) (b : Bridge) :
    (ts.foldl discard b).tasks = b.tasks.filter fun u => ts.all fun t => u.id != t.id := by
  induction ts generalizing b with
  | nil => exact (List.filter_eq_self.mpr fun _ _ => rfl).symm
  | cons t rest ih =>
    rw [List.foldl_cons, ih]
    show (b.tasks.filter fun u => u.id != t.id).filter _ = _
    rw [List.filter_filter]
    refine List.filter_congr ?_
    intro u _
    rw [List.all_cons, Bool.and_comm]

/-- Where tasks run no more, none is left. -/
theorem tasks_halt (b : Bridge) : b.halt.tasks = [] := by
  unfold halt
  rw [discards_tasks]
  refine List.filter_eq_nil_iff.mpr ?_
  intro u hu hall
  have hmem := (List.mergeSort_perm b.tasks fun t u => decide (t.id ≤ u.id)).mem_iff.mpr hu
  exact bne_iff_ne.mp (List.all_eq_true.mp hall u hmem) rfl

/-! ### Every history -/

/-- Every state that a new bridge comes to, also in the middle of a move, has every request end
once. After a move, what has come to its end has ended: a request that is rejected, a request
whose chain takes its last step, and every request where tasks run no more. -/
theorem every_request_ends_once (profile : Profile) :
    (∀ os b, Unfolds (Bridge.new profile) os b →
      EndsOnce (newContexts os) b ∧
      ∀ d ∈ departures os, ∀ c, d.context = some c → b.engine.terminalCount c = 1) ∧
    ∀ h : List Move,
      let b := (Bridge.new profile).run h
      let contexts := ((Bridge.new profile).inbounds h).filterMap (·.context)
      EndsOnce contexts b ∧
      (∀ attached withContext withFlag cancelled route frame reason c,
        let handed := b.handOver attached withContext withFlag cancelled route frame
        b.admission attached handed.2 = .error reason → handed.2.context = some c →
          handed.1.engine.terminalCount c = 1) ∧
      (∀ t ∈ b.tasks, ∀ result c, t.begun = true → t.act.end? = some result →
        t.context = some c → (b.advance t.id).engine.terminalCount c = 1) ∧
      ∀ c ∈ contexts, b.halt.engine.terminalCount c = 1 := by
  refine ⟨?_, ?_⟩
  · intro os b hos
    have l := (ledger_new profile).unfolds hos
    exact ⟨l.endsOnce, fun d hd c => l.departed hd⟩
  intro h
  obtain ⟨os, _, harrivals, l⟩ := ledger_run profile h
  have hcontexts : newContexts os = ((Bridge.new profile).inbounds h).filterMap (·.context) := by
    rw [newContexts, harrivals]
  dsimp only
  rw [← hcontexts]
  generalize (Bridge.new profile).run h = b at l
  refine ⟨l.endsOnce, ?_, ?_, ?_⟩
  · intro attached withContext withFlag cancelled route frame reason c hadmission hc
    have hcases := b.handOver_cases attached withContext withFlag cancelled route frame
    dsimp only at hcases
    rw [hadmission] at hcases
    obtain ⟨⟨gone, happens⟩, _⟩ := hcases
    exact l.departs happens (List.mem_singleton.mpr rfl) hc
  · intro t ht result c hbegun hend hc
    have hfind := task?_of_mem l.orderly.distinct ht
    rw [advance_finish hfind hbegun hend]
    exact l.departs (.finish hfind hbegun hend) (List.mem_singleton.mpr rfl) hc
  · intro c hc
    obtain ⟨os', hos', harrivals'⟩ := leads_halt l.orderly
    have l' := l.unfolds hos'
    have hsame : newContexts (os ++ os') = newContexts os := by
      rw [newContexts_append, newContexts, newContexts, harrivals']
      exact List.append_nil _
    refine l'.endsOnce.ended c (by rwa [hsame]) ?_
    rw [inFlight, tasks_halt]
    exact List.not_mem_nil

end Bridge
end RequestBridge
