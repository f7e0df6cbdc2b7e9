import RequestBridge.Proofs.Bridge.Conservation
import RequestBridge.Proofs.Frame.RoundTrip

/-! How each request ends, and what its client sees of it.

The terminal action of a request is decided in one step, by how the request comes to its end
and by whether its peer counts as gone in that step (`ended_in_one_step`). What is decided stays,
and a peer that has given up does not come back, so one that gives up in time never gets a
response (`Ledger.released_if_gone`). -/
namespace RequestBridge

/-! ### Terminal actions and frames -/

theorem Response.length_fitted (r : Response) : r.fitted.1.body.length ≤ Frame.maxField := by
  unfold fitted
  split
  · show (Utf8.encode "response body too large").length ≤ _
    decide
  · next h => exact Nat.le_of_not_lt h

theorem Response.fitted_eq {r : Response} (h : r.body.length ≤ Frame.maxField) :
    r.fitted.1 = r := by
  rw [fitted, if_neg (Nat.not_lt_of_le h)]

/-- The frame with which a response is sent reads as that response. -/
theorem Response.decode_fitted (r : Response) :
    Frame.decodeResponse (Frame.encodeResponse r.fitted.1) = .ok r.fitted.1 := by
  have h := Frame.decodeResponse_encodeResponse r.fitted.1 [] r.length_fitted
  rwa [List.append_nil] at h

/-- A request is let go if there is nothing to tell or if its peer is gone, and otherwise it is
answered with a frame. -/
theorem Ending.terminal_cases (ending : Ending) (c : Address) (gone : Bool) :
    ending.terminal c gone = .released c ∧ (ending.response? = none ∨ gone = true) ∨
    ∃ r, ending.response? = some r ∧ gone = false ∧
      ending.terminal c gone = .completed c (Frame.encodeResponse r.fitted.1) := by
  unfold terminal
  cases ending.response? with
  | none => exact .inl ⟨rfl, .inl rfl⟩
  | some r =>
    cases gone with
    | true => exact .inl ⟨rfl, .inr rfl⟩
    | false => exact .inr ⟨r, rfl, rfl, rfl⟩

theorem Engine.mem_of_terminalOf? {e : Engine} {c : Address} {T : Terminal}
    (h : e.terminalOf? c = some T) : T ∈ e.terminals ∧ T.context = c := by
  unfold terminalOf? at h
  have hcontext := List.find?_some h
  exact ⟨List.mem_of_find?_eq_some h, beq_iff_eq.mp hcontext⟩

namespace Bridge
open Occurrence

theorem Ledger.nodup_terminals {os : List Occurrence} {b : Bridge} (l : Ledger os b) :
    (b.engine.terminals.map Terminal.context).Nodup :=
  (List.nodup_append.mp (l.shared.nodup_iff.mpr l.contexts.nodup)).2.1

/-- The terminal action on a context is the only one on it. -/
theorem Ledger.terminalOf?_eq {os : List Occurrence} {b : Bridge} (l : Ledger os b) {c : Address}
    {T : Terminal} :
    b.engine.terminalOf? c = some T ↔ T ∈ b.engine.terminals ∧ T.context = c := by
  refine ⟨Engine.mem_of_terminalOf?, ?_⟩
  rintro ⟨hT, rfl⟩
  cases hfind : b.engine.terminalOf? T.context with
  | none => exact absurd (beq_self_eq_true _) (List.find?_eq_none.mp hfind T hT)
  | some T' =>
    obtain ⟨hmem, hcontext⟩ := Engine.mem_of_terminalOf? hfind
    rw [List.inj_on_of_nodup_map l.nodup_terminals hmem hT hcontext]

theorem Ledger.terminal_of_departed {os : List Occurrence} {b : Bridge} (l : Ledger os b)
    {d : Departure} (hd : d ∈ departures os) {c : Address} (hc : d.context = some c) :
    b.engine.terminalOf? c = some (d.ending.terminal c d.gone) := by
  refine l.terminalOf?_eq.mpr ⟨?_, d.ending.context_terminal c d.gone⟩
  rw [l.terminals]
  exact List.mem_filterMap.mpr ⟨d, hd, by rw [Departure.terminal?, hc]; rfl⟩

/-- A request that was handed over is in flight or has departed. -/
theorem Ledger.whereabouts {os : List Occurrence} {b : Bridge} (l : Ledger os b) {call : Inbound}
    (hcall : call ∈ arrivals os) :
    (∃ t ∈ b.tasks, t.addresses = call.addresses) ∨
      ∃ d ∈ departures os, d.addresses = call.addresses := by
  have hmem := l.conserved.mem_iff.mpr (List.mem_map.mpr ⟨call, hcall, rfl⟩)
  exact (List.mem_append.mp hmem).imp List.mem_map.mp List.mem_map.mp

theorem Ledger.not_ended {os : List Occurrence} {b : Bridge} (l : Ledger os b) {t : Task}
    (ht : t ∈ b.tasks) {c : Address} (hc : t.context = some c) :
    b.engine.terminalOf? c = none := by
  have hflight : c ∈ b.inFlight := List.mem_filterMap.mpr ⟨t, ht, hc⟩
  have hcount := (l.endsOnce.pending c hflight).2
  refine List.find?_eq_none.mpr ?_
  intro T hT
  exact List.countP_eq_zero.mp hcount T hT

/-! ### The step that decides -/

theorem Happens.cancelled {b b' : Bridge} {os : List Occurrence} (h : Happens b os b')
    (ho : b.Orderly) {f : Address} (hf : f ∈ b.engine.cancelled) : f ∈ b'.engine.cancelled := by
  cases h with
  | managed h =>
    rw [show b'.engine.cancelled = b.engine.cancelled from
      congrArg (fun traffic => traffic.engine.cancelled) h.traffic]
    exact hf
  | cancel flag => exact List.mem_cons_of_mem flag hf
  | openGate gate => exact hf
  | close => exact hf
  | askCopy flag =>
    unfold Bridge.askCopy
    split <;> exact hf
  | dropCopy flag =>
    unfold Bridge.dropCopy
    split
    · dsimp only
      rw [Engine.letGo_eq]
      exact hf
    · exact hf
  | reject events hequip hadmission =>
    rw [reject_engine]
    exact (Engine.equipped_of_equip hequip).cancelled f hf
  | enqueue hequip hadmission => exact (Engine.equipped_of_equip hequip).cancelled f hf
  | proceed hfind hgoes =>
    rcases (advance_proceeds ho.distinct hfind hgoes).engine with he | ⟨g, _, he⟩
    · rw [he]
      exact hf
    · rw [he]
      exact hf
  | finish hfind hbegun hend =>
    rw [finish_engine]
    exact hf
  | discard ht hhalted =>
    rw [discard_engine]
    exact hf

/-- A peer that counts as gone does so from then on. -/
theorem Unfolds.isCancelled {b b' : Bridge} {os : List Occurrence} (h : Unfolds b os b')
    (ho : b.Orderly) {flag : Option Address} (hgone : b.engine.isCancelled flag = true) :
    b'.engine.isCancelled flag = true := by
  cases flag with
  | none => rfl
  | some f =>
    induction h with
    | refl _ => exact hgone
    | step hstep _ ih =>
      refine ih (hstep.orderly ho) ?_
      exact List.contains_iff_mem.mpr (hstep.cancelled ho (List.contains_iff_mem.mp hgone))

/-- Whether a peer is gone is decided in the step in which its request ends. -/
theorem Happens.gone {b b' : Bridge} {os : List Occurrence} (h : Happens b os b') {d : Departure}
    (hd : d ∈ departures os) : d.gone = b'.engine.isCancelled d.flag := by
  cases h with
  | reject events hequip hadmission =>
    rw [List.mem_singleton.mp hd, reject_engine]
    rfl
  | finish hfind hbegun hend =>
    rw [List.mem_singleton.mp hd, finish_engine]
    rfl
  | discard ht hhalted =>
    rw [List.mem_singleton.mp hd, discard_engine]
    rfl
  | _ => cases hd

theorem mem_of_departure {os : List Occurrence} {d : Departure} (hd : d ∈ departures os) :
    .departed d ∈ os := by
  obtain ⟨occurrence, hmem, hdeparture⟩ := List.mem_filterMap.mp hd
  cases occurrence <;> cases hdeparture
  exact hmem

/-- In what happens from one bridge to another there is a step in which a request departs, and
whether its peer is gone is seen in that step. -/
def DepartsBetween (b b' : Bridge) (d : Departure) : Prop :=
  ∃ before b₁ now b₂ after, Unfolds b before b₁ ∧ Happens b₁ now b₂ ∧ Unfolds b₂ after b' ∧
    .departed d ∈ now ∧ d.gone = b₂.engine.isCancelled d.flag

theorem Unfolds.departs {b b' : Bridge} {os : List Occurrence} (h : Unfolds b os b')
    {d : Departure} (hd : d ∈ departures os) : DepartsBetween b b' d := by
  induction h with
  | refl _ => cases hd
  | step hstep hrest ih =>
    rw [departures_append] at hd
    rcases List.mem_append.mp hd with hd | hd
    · exact ⟨_, _, _, _, _, .refl _, hstep, hrest, mem_of_departure hd, hstep.gone hd⟩
    · obtain ⟨before, b₁, now, b₂, after, hbefore, hnow, hafter, hd, hgone⟩ := ih hd
      exact ⟨_, b₁, now, b₂, after, .step hstep hbefore, hnow, hafter, hd, hgone⟩

/-- A request is in flight, or it has ended in one step with the terminal action that belongs to
its ending and to whether its peer was gone in that step. -/
theorem ended_in_one_step {profile : Profile} {os : List Occurrence} {b : Bridge}
    (h : Unfolds (Bridge.new profile) os b) {call : Inbound} (hcall : call ∈ arrivals os)
    {c : Address} (hc : call.context = some c) :
    (c ∈ b.inFlight ∧ b.engine.terminalOf? c = none) ∨
    ∃ ending gone, DepartsBetween (Bridge.new profile) b ⟨some c, call.flag, ending, gone⟩ ∧
      b.engine.terminalOf? c = some (ending.terminal c gone) := by
  have l := (ledger_new profile).unfolds h
  rcases l.whereabouts hcall with ⟨t, ht, haddresses⟩ | ⟨d, hd, haddresses⟩
  · have htc : t.context = some c := (congrArg (·.1) haddresses).trans hc
    exact .inl ⟨List.mem_filterMap.mpr ⟨t, ht, htc⟩, l.not_ended ht htc⟩
  · obtain ⟨context, flag, ending, gone⟩ := d
    have hcontext : context = some c := (congrArg (·.1) haddresses).trans hc
    have hflag : flag = call.flag := congrArg (·.2) haddresses
    subst hcontext hflag
    exact .inr ⟨ending, gone, h.departs hd, l.terminal_of_departed hd rfl⟩

/-! ### What is decided stays -/

theorem Unfolds.terminals {b b' : Bridge} {os : List Occurrence} (h : Unfolds b os b')
    (ho : b.Orderly) : b'.engine.terminals = b.engine.terminals ++ Occurrence.terminals os := by
  induction h with
  | refl b => exact (List.append_nil _).symm
  | step hstep _ ih =>
    rw [ih (hstep.orderly ho), hstep.terminals ho, terminals_append, List.append_assoc]

/-- The terminal action on a context does not change any more. -/
theorem Unfolds.terminalOf?_stays {b b' : Bridge} {os : List Occurrence} (h : Unfolds b os b')
    (ho : b.Orderly) {c : Address} {T : Terminal} (hT : b.engine.terminalOf? c = some T) :
    b'.engine.terminalOf? c = some T := by
  unfold Engine.terminalOf? at hT ⊢
  rw [h.terminals ho, List.find?_append, hT]
  rfl

/-- A request whose peer is gone before it has ended is never answered. -/
theorem Ledger.released_if_gone {os os' : List Occurrence} {b b' : Bridge} (l : Ledger os b)
    (h : Unfolds b os' b') {call : Inbound} (hcall : call ∈ arrivals os) {c : Address}
    (hc : call.context = some c) (hopen : b.engine.terminalOf? c = none)
    (hgone : b.engine.isCancelled call.flag = true) :
    b'.engine.terminalOf? c = none ∨ b'.engine.terminalOf? c = some (.released c) := by
  have l' := l.unfolds h
  have hcall' : call ∈ arrivals (os ++ os') := by
    rw [arrivals_append]
    exact List.mem_append_left _ hcall
  rcases l'.whereabouts hcall' with ⟨t, ht, haddresses⟩ | ⟨d, hd, haddresses⟩
  · exact .inl (l'.not_ended ht ((congrArg (·.1) haddresses).trans hc))
  · have hdc : d.context = some c := (congrArg (·.1) haddresses).trans hc
    have hflag : d.flag = call.flag := congrArg (·.2) haddresses
    right
    rw [l'.terminal_of_departed hd hdc]
    rw [departures_append] at hd
    rcases List.mem_append.mp hd with hd | hd
    · rw [l.terminal_of_departed hd hdc] at hopen
      cases hopen
    · obtain ⟨_, b₁, _, b₂, _, hbefore, hnow, _, _, hseen⟩ := h.departs hd
      have hstill := (hbefore.trans hnow.unfolds).isCancelled l.orderly hgone
      rw [hseen, hflag, hstill, Ending.terminal_gone]

/-! ### Clients -/

/-- A client gets its answer, the news that there is none, or nothing yet. -/
theorem Ledger.answer_cases {os : List Occurrence} {b : Bridge} (l : Ledger os b) (millis : Nat)
    (c : Address) :
    b.answer millis c = .error (.timeout millis) ∨ b.answer millis c = .ok .released ∨
      ∃ r : Response, b.answer millis c = .ok (.ofResponse r.fitted.1) := by
  unfold answer
  cases hfind : b.engine.terminalOf? c with
  | none => exact .inl rfl
  | some T =>
    have hmem := (Engine.mem_of_terminalOf? hfind).1
    rw [l.terminals] at hmem
    obtain ⟨d, _, hd⟩ := List.mem_filterMap.mp hmem
    obtain ⟨c', _, rfl⟩ := Option.map_eq_some_iff.mp hd
    right
    rcases d.ending.terminal_cases c' d.gone with ⟨hreleased, _⟩ | ⟨r, _, _, hcompleted⟩
    · rw [hreleased]
      exact .inl rfl
    · rw [hcompleted]
      dsimp only
      rw [r.decode_fitted]
      exact .inr ⟨r, rfl⟩

end Bridge
end RequestBridge
