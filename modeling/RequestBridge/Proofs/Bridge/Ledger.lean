import RequestBridge.Proofs.Bridge.Dealings

/-! The books of a bridge: all that has happened to it, and what is to be seen of it now.

What one thing that happens adds to the books is said elsewhere; here it is summed up over all
that has happened to a new bridge (`Ledger`). Every history has its books (`ledger_run`). -/
namespace RequestBridge

namespace Occurrence

/-- The terminal actions of the requests that depart. -/
def terminals (os : List Occurrence) : List Terminal := (departures os).filterMap (·.terminal?)

theorem terminals_append (os os' : List Occurrence) :
    terminals (os ++ os') = terminals os ++ terminals os' := by
  rw [terminals, departures_append, List.filterMap_append]
  rfl

end Occurrence

namespace Bridge
open Occurrence

/-- What has happened to a bridge, and what is to be seen of it now. -/
structure Ledger (os : List Occurrence) (b : Bridge) : Prop where
  orderly : b.Orderly
  conserved : (b.tasks.map Task.addresses ++ (departures os).map Departure.addresses).Perm
    ((arrivals os).map Inbound.addresses)
  issued : b.engine.issued = (newContexts os).reverse
  contexts : Fresh 0 (newContexts os) b.engine.next
  flags : Fresh 0 (newFlags os) b.engine.next
  terminals : b.engine.terminals = Occurrence.terminals os

theorem ledger_new (profile : Profile) : Ledger [] (Bridge.new profile) where
  orderly := orderly_new profile
  conserved := .refl _
  issued := rfl
  contexts := .nil (Nat.zero_le _)
  flags := .nil (Nat.zero_le _)
  terminals := rfl

theorem Happens.terminals {b b' : Bridge} {os : List Occurrence} (h : Happens b os b')
    (ho : b.Orderly) : b'.engine.terminals = b.engine.terminals ++ Occurrence.terminals os := by
  obtain ⟨_, calls, hdeals, _, hdealings⟩ := h.dealt ho
  rw [b'.engine.terminals_eq_dealings, hdealings, List.reverse_append, List.filterMap_append,
    hdeals.terminals, ← b.engine.terminals_eq_dealings]
  rfl

theorem Ledger.step {os os' : List Occurrence} {b b' : Bridge} (l : Ledger os b)
    (h : Happens b os' b') : Ledger (os ++ os') b' := by
  have hout := h.handsOut l.orderly
  refine ⟨h.orderly l.orderly, ?_, ?_, ?_, ?_, ?_⟩
  · rw [departures_append, arrivals_append, List.map_append, List.map_append]
    have hnow := (h.conserved l.orderly).append_left ((departures os).map Departure.addresses)
    have hbefore := l.conserved.append_right ((arrivals os').map Inbound.addresses)
    rw [List.append_assoc] at hbefore
    refine (List.perm_append_comm_assoc ..).trans (hnow.trans (.trans ?_ hbefore))
    exact List.perm_append_comm_assoc ..
  · rw [hout.issued, l.issued, newContexts_append, List.reverse_append]
  · rw [newContexts_append]
    exact l.contexts.append hout.contexts
  · rw [newFlags_append]
    exact l.flags.append hout.flags
  · rw [h.terminals l.orderly, l.terminals, terminals_append]

theorem Ledger.unfolds {os os' : List Occurrence} {b b' : Bridge} (l : Ledger os b)
    (h : Unfolds b os' b') : Ledger (os ++ os') b' := by
  induction h generalizing os with
  | refl b =>
    rw [List.append_nil]
    exact l
  | step hstep _ ih =>
    rw [← List.append_assoc]
    exact ih (l.step hstep)

/-- Every history has its ledger. -/
theorem ledger_run (profile : Profile) (h : List Move) :
    ∃ os, Unfolds (Bridge.new profile) os ((Bridge.new profile).run h) ∧
      arrivals os = (Bridge.new profile).inbounds h ∧ Ledger os ((Bridge.new profile).run h) := by
  obtain ⟨os, hos, harrivals⟩ := leads_run (orderly_new profile) h
  exact ⟨os, hos, harrivals, (ledger_new profile).unfolds hos⟩

end Bridge
end RequestBridge
