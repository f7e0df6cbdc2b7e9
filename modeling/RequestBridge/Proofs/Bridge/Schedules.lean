import RequestBridge.Proofs.Bridge.Sights

/-! Requests do not interfere.

How a request ends follows from its admission, which is settled when it is handed over, and from
the answers that it sees of its own peer; in which order requests come, tasks take steps, gates
open, and servers are stopped, dropped and started does not matter
(`requests_do_not_interfere`). -/
namespace RequestBridge.Bridge
open Occurrence

/-- What is known of a request is known of it after any history, as long as tasks run. -/
theorem Known.run {b : Bridge} {os : List Occurrence} {c : Address} {xs : List Handover}
    {answers : List Bool} (h : Known c xs answers b) (l : Ledger os b)
    (hxs : xs.map Handover.call = arrivals os) (hp : b.Patient) (moves : List Move)
    (hruns : (b.run moves).halted = false) :
    Known c (xs ++ b.handovers moves) (answers ++ b.seen c moves) (b.run moves) := by
  induction moves generalizing b os xs answers with
  | nil =>
    rw [handovers, seen, List.append_nil, List.append_nil]
    exact h
  | cons m rest ih =>
    obtain ⟨os', hos', harrivals⟩ := leads_apply l.orderly m
    obtain ⟨_, hrest, _⟩ := leads_run (hos'.orderly l.orderly) rest
    have hnow : (b.apply m).halted = false := by
      refine Bool.eq_false_iff.mpr fun hhalted => ?_
      have hlater := hrest.halted (hos'.orderly l.orderly) hhalted
      rw [run_cons, hlater] at hruns
      cases hruns
    have hbooks : (xs ++ (b.handover? m).toList).map Handover.call = arrivals (os ++ os') := by
      rw [List.map_append, call_handover?, arrivals_append, hxs, harrivals]
    rw [handovers, seen, ← List.append_assoc, ← List.append_assoc]
    exact ih (h.apply l hxs hp m hnow) (l.unfolds hos') hbooks (hos'.patient l.orderly hp) hruns

/-- The handover of a request is known by its context. -/
theorem eq_of_handover_context (profile : Profile) (h : List Move) {x y : Handover} {c : Address}
    (hx : x ∈ (Bridge.new profile).handovers h) (hy : y ∈ (Bridge.new profile).handovers h)
    (hxc : x.call.context = some c) (hyc : y.call.context = some c) : x = y := by
  obtain ⟨os, _, harrivals, l⟩ := ledger_run profile h
  have hnodup : (((Bridge.new profile).handovers h).filterMap fun x => x.call.context).Nodup := by
    have hcontexts := l.contexts.nodup
    rw [newContexts, harrivals, ← calls_handovers, List.filterMap_map] at hcontexts
    exact hcontexts
  exact eq_of_nodup_filterMap hnodup hx hy hxc hyc

/-- Where tasks have not stopped running, a request that is not in flight has ended as its
admission and the answers that it saw have it end. -/
theorem ended_as_seen (profile : Profile) (h : List Move)
    (hruns : ((Bridge.new profile).run h).halted = false) {x : Handover}
    (hx : x ∈ (Bridge.new profile).handovers h) {c : Address} (hc : x.call.context = some c)
    (hover : c ∉ ((Bridge.new profile).run h).inFlight) :
    ∃ T, x.terminal? c ((Bridge.new profile).seen c h) = some T ∧
      ((Bridge.new profile).run h).engine.terminalOf? c = some T := by
  have hstart : Known c [] [] (Bridge.new profile) := .yetToCome (fun _ hx => nomatch hx) rfl
  have hknown := hstart.run (ledger_new profile) rfl (patient_new profile) h hruns
  obtain ⟨_, _, _, l⟩ := ledger_run profile h
  cases hknown with
  | yetToCome hunknown _ => exact absurd hc (hunknown x hx)
  | underWay _ _ ht htc => exact absurd (List.mem_filterMap.mpr ⟨_, ht, htc⟩) hover
  | ended hy hyc hT hmem =>
    obtain rfl := eq_of_handover_context profile h hx hy hc hyc
    exact ⟨_, hT, l.terminalOf?_eq.mpr ⟨hmem, Handover.context_terminal? hT⟩⟩

/-- Take any two histories in which tasks do not stop running, on engines of any make. In each of
them a request that is over has ended as the chain that was resolved when it was handed over has
it end, given the answers that it saw of its own peer, whatever has become of its server since.
So the same request, handed over to dispatchers that hold the same, ends the same in both if it
has seen the same answers: with a release in both, or with the same frame. -/
theorem requests_do_not_interfere (profile profile' : Profile) (h h' : List Move)
    (hruns : ((Bridge.new profile).run h).halted = false)
    (hruns' : ((Bridge.new profile').run h').halted = false) :
    let b := (Bridge.new profile).run h
    let b' := (Bridge.new profile').run h'
    (∀ x ∈ (Bridge.new profile).handovers h, ∀ c, x.call.context = some c → c ∉ b.inFlight →
      ∃ T, x.terminal? c ((Bridge.new profile).seen c h) = some T ∧
        b.engine.terminalOf? c = some T) ∧
    ∀ x ∈ (Bridge.new profile).handovers h, ∀ x' ∈ (Bridge.new profile').handovers h', x.Same x' →
      ∀ c c', x.call.context = some c → x'.call.context = some c' →
        c ∉ b.inFlight → c' ∉ b'.inFlight →
        (Bridge.new profile').seen c' h' = (Bridge.new profile).seen c h →
          ∃ T T', b.engine.terminalOf? c = some T ∧ b'.engine.terminalOf? c' = some T' ∧
            T'.frame? = T.frame? := by
  intro b b'
  refine ⟨fun x hx c hc hover => ended_as_seen profile h hruns hx hc hover, ?_⟩
  intro x hx x' hx' hsame c c' hc hc' hover hover' hseen
  obtain ⟨T, hT, hended⟩ := ended_as_seen profile h hruns hx hc hover
  obtain ⟨T', hT', hended'⟩ := ended_as_seen profile' h' hruns' hx' hc' hover'
  refine ⟨T, T', hended, hended', ?_⟩
  have hframes := hsame.frame? c c' ((Bridge.new profile).seen c h)
  rw [← hseen, hT', hseen, hT] at hframes
  exact Option.some.inj hframes

/-- A server with one route, whose handler waits at a gate, asks for its peer, and answers with
the body of its request. -/
def serving : List Move := [
  .addRouter,
  .addRoute 0 "/late" ⟨[], fun request =>
    .wait "dawn" (.poll fun gone => .done (.ok ⟨if gone then 503 else 200, request.body⟩))⟩,
  .addServer 0 80 {},
  .start 0]

/-- A request of one byte for the route. -/
def asks (byte : UInt8) : Move :=
  .handOver (some 0) true true false 0 (some (Frame.encodeRequest ⟨.get, "/late", [byte]⟩))

/-- Two requests, which run together once the gate is open. -/
def together : List Move := serving ++ [asks 1, asks 2, .drive, .openGate "dawn", .drive]

/-- The requests in the other order. The server is stopped, and that of another router is started,
before either of them goes on, step by step. -/
def swapped : List Move := serving ++ [
  asks 2, asks 1, .advance 1, .stop 0, .addRouter, .addServer 1 81 {}, .start 1, .openGate "dawn",
  .advance 1, .advance 0, .advance 1, .advance 1, .drive]

theorem swapped_requests_end_alike :
    let b := (Bridge.new .memory).run together
    let b' := (Bridge.new .native).run swapped
    b.halted = false ∧ b'.halted = false ∧
    (Bridge.new .memory).seen 48 together = [false, false] ∧
    ∃ T T', b.engine.terminalOf? 48 = some T ∧ b'.engine.terminalOf? 4128 = some T' ∧
      T'.frame? = T.frame? := by
  have hruns : ((Bridge.new .memory).run together).halted = false := by decide +kernel
  have hruns' : ((Bridge.new .native).run swapped).halted = false := by decide +kernel
  obtain ⟨-, halike⟩ := requests_do_not_interfere .memory .native together swapped hruns hruns'
  have hx : _ ∈ (Bridge.new .memory).handovers together :=
    List.mem_of_getElem? (i := 0) rfl
  have hx' : _ ∈ (Bridge.new .native).handovers swapped :=
    List.mem_of_getElem? (i := 1) rfl
  refine ⟨hruns, hruns', by decide +kernel, ?_⟩
  exact halike _ hx _ hx' ⟨rfl, rfl, rfl⟩ 48 4128 rfl rfl (by decide +kernel) (by decide +kernel)
    (by decide +kernel)

end RequestBridge.Bridge
