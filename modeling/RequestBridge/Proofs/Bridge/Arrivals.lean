import RequestBridge.Proofs.Bridge.Trace

/-! Requests come and go, and none is lost.

Whatever happens, the requests that arrived are those that depart and those that are still
there, with the same addresses (`Happens.conserved`). The addresses that a request arrives with
were never handed out before (`Happens.handsOut`). -/
namespace RequestBridge

/-- The context and the flag of a request. -/
abbrev Addresses := Option Address × Option Address

def Inbound.addresses (call : Inbound) : Addresses := (call.context, call.flag)

def Task.addresses (t : Task) : Addresses := (t.context, t.flag)

def Departure.addresses (d : Departure) : Addresses := (d.context, d.flag)

theorem Task.addresses_next (t : Task) (gates : List String) (gone : Bool) :
    (t.next gates gone).addresses = t.addresses :=
  congrArg (·.2.2) (t.ticket_next gates gone)

/-- Addresses between two bounds, each greater than the one before. -/
structure Fresh (low : Address) (addresses : List Address) (high : Address) : Prop where
  le : low ≤ high
  ascending : addresses.Pairwise (· < ·)
  within : ∀ a ∈ addresses, low ≤ a ∧ a < high

namespace Fresh
variable {low middle high : Address} {addresses later : List Address}

theorem nil (h : low ≤ high) : Fresh low [] high := ⟨h, .nil, fun _ ha => by cases ha⟩

theorem of_option {a : Option Address} (h : low ≤ high)
    (ha : ∀ x, a = some x → low ≤ x ∧ x < high) : Fresh low a.toList high := by
  cases a with
  | none => exact .nil h
  | some x =>
    refine ⟨h, List.pairwise_singleton _ _, ?_⟩
    intro y hy
    rw [List.mem_singleton.mp hy]
    exact ha x rfl

theorem append (h : Fresh low addresses middle) (h' : Fresh middle later high) :
    Fresh low (addresses ++ later) high := by
  refine ⟨Nat.le_trans h.le h'.le, ?_, ?_⟩
  · refine List.pairwise_append.mpr ⟨h.ascending, h'.ascending, ?_⟩
    intro a ha a' ha'
    exact Nat.lt_of_lt_of_le (h.within a ha).2 (h'.within a' ha').1
  · intro a ha
    rcases List.mem_append.mp ha with ha | ha
    · exact ⟨(h.within a ha).1, Nat.lt_of_lt_of_le (h.within a ha).2 h'.le⟩
    · exact ⟨Nat.le_trans h.le (h'.within a ha).1, (h'.within a ha).2⟩

theorem nodup (h : Fresh low addresses high) : addresses.Nodup :=
  h.ascending.imp fun hlt => Nat.ne_of_lt hlt

end Fresh

namespace Occurrence

/-- The contexts of the requests that arrive. -/
def newContexts (os : List Occurrence) : List Address := (arrivals os).filterMap (·.context)

/-- The flags of the requests that arrive. -/
def newFlags (os : List Occurrence) : List Address := (arrivals os).filterMap (·.flag)

theorem newContexts_append (os os' : List Occurrence) :
    newContexts (os ++ os') = newContexts os ++ newContexts os' := by
  rw [newContexts, arrivals_append, List.filterMap_append]
  rfl

theorem newFlags_append (os os' : List Occurrence) :
    newFlags (os ++ os') = newFlags os ++ newFlags os' := by
  rw [newFlags, arrivals_append, List.filterMap_append]
  rfl

theorem newContexts_of_arrivals {os : List Occurrence} {call : Inbound} (h : arrivals os = [call]) :
    newContexts os = call.context.toList := by
  rw [newContexts, h]
  cases hc : call.context <;> simp [hc]

theorem newFlags_of_arrivals {os : List Occurrence} {call : Inbound} (h : arrivals os = [call]) :
    newFlags os = call.flag.toList := by
  rw [newFlags, h]
  cases hf : call.flag <;> simp [hf]

end Occurrence

open Occurrence

/-! ### Requests -/

namespace Bridge

/-- The requests that are there and those that depart are the ones that were there before and
those that arrive. -/
theorem Happens.conserved {b b' : Bridge} {os : List Occurrence} (h : Happens b os b')
    (ho : b.Orderly) :
    (b'.tasks.map Task.addresses ++ (departures os).map Departure.addresses).Perm
      (b.tasks.map Task.addresses ++ (arrivals os).map Inbound.addresses) := by
  cases h with
  | managed h =>
    rw [show b'.tasks = b.tasks from congrArg Traffic.tasks h.traffic]
    exact .refl _
  | cancel flag => exact .refl _
  | openGate gate =>
    refine .append (((b.openGate_tasks gate).map _).trans ?_) (.refl _)
    rw [List.map_map]
    refine .of_eq (List.map_congr_left ?_)
    intro t _
    exact congrArg (·.2.2) (t.ticket_through gate)
  | close => exact .refl _
  | askCopy flag =>
    unfold Bridge.askCopy
    split <;> exact .refl _
  | dropCopy flag =>
    unfold Bridge.dropCopy
    split <;> exact .refl _
  | reject events hequip hadmission => exact .refl _
  | @enqueue e _ _ _ call _ act hequip hadmission =>
    show ((b.tasks ++ [newTask { b with engine := e } call act]).map Task.addresses ++ []).Perm _
    rw [List.map_append, List.append_nil]
    exact .refl _
  | @proceed id t hfind hgoes =>
    have hstep := advance_proceeds ho.distinct hfind hgoes
    refine .append ((hstep.tasks.map _).trans ?_) (.refl _)
    rw [Task.map_replaced ho.distinct (mem_of_task? hfind).1 (t.id_next ..) Task.addresses
      (t.addresses_next ..)]
  | @finish t result hfind hbegun hend =>
    have hperm := (Task.perm_cons_without ho.distinct (mem_of_task? hfind).1).map Task.addresses
    refine (List.perm_append_singleton ..).trans (hperm.symm.trans ?_)
    exact .of_eq (List.append_nil _).symm
  | @discard t ht hhalted =>
    have hperm := (Task.perm_cons_without ho.distinct ht).map Task.addresses
    refine (List.perm_append_singleton ..).trans (hperm.symm.trans ?_)
    exact .of_eq (List.append_nil _).symm

end Bridge

/-! ### Addresses -/

/-- The contexts that an engine has issued meanwhile are those of the requests that arrived,
and no address of theirs was handed out before. -/
structure Engine.HandsOut (e : Engine) (os : List Occurrence) (e' : Engine) : Prop where
  issued : e'.issued = (newContexts os).reverse ++ e.issued
  contexts : Fresh e.next (newContexts os) e'.next
  flags : Fresh e.next (newFlags os) e'.next

namespace Engine.HandsOut
variable {e e' e'' : Engine} {os os' : List Occurrence}

theorem of_quiet (hos : arrivals os = []) (hissued : e'.issued = e.issued)
    (hnext : e.next ≤ e'.next) : e.HandsOut os e' := by
  have hcontexts : newContexts os = [] := by rw [newContexts, hos]; rfl
  have hflags : newFlags os = [] := by rw [newFlags, hos]; rfl
  refine ⟨?_, ?_, ?_⟩
  · rw [hcontexts, hissued]
    rfl
  · rw [hcontexts]
    exact .nil hnext
  · rw [hflags]
    exact .nil hnext

theorem of_equip {withContext withFlag cancelled : Bool} {call : Inbound}
    (h : e.equip withContext withFlag cancelled = (e', call.context, call.flag))
    (hos : arrivals os = [call]) : e.HandsOut os e' := by
  have hequipped := equipped_of_equip h
  refine ⟨?_, ?_, ?_⟩
  · rw [newContexts_of_arrivals hos, hequipped.issued]
    cases call.context <;> rfl
  · rw [newContexts_of_arrivals hos]
    exact .of_option hequipped.next hequipped.context
  · rw [newFlags_of_arrivals hos]
    exact .of_option hequipped.next hequipped.flag

end Engine.HandsOut

namespace Bridge

theorem Happens.handsOut {b b' : Bridge} {os : List Occurrence} (h : Happens b os b')
    (ho : b.Orderly) : b.engine.HandsOut os b'.engine := by
  cases h with
  | managed h => exact .of_quiet rfl (congrArg (fun traffic => traffic.engine.issued) h.traffic) h.next
  | cancel flag => exact .of_quiet rfl rfl (Nat.le_refl _)
  | openGate gate => exact .of_quiet rfl rfl (Nat.le_refl _)
  | close => exact .of_quiet rfl rfl (Nat.le_refl _)
  | askCopy flag =>
    unfold Bridge.askCopy
    split <;> exact .of_quiet rfl rfl (Nat.le_refl _)
  | dropCopy flag =>
    unfold Bridge.dropCopy
    split
    · dsimp only
      rw [Engine.letGo_eq]
      exact .of_quiet rfl rfl (Nat.le_refl _)
    · exact .of_quiet rfl rfl (Nat.le_refl _)
  | @reject e _ _ _ call _ reason events hequip hadmission =>
    have hout : b.engine.HandsOut [.arrived call,
        .departed ⟨call.context, call.flag, .rejected reason, e.isCancelled call.flag⟩] e :=
      .of_equip hequip rfl
    rw [reject_engine]
    exact ⟨hout.issued, hout.contexts, hout.flags⟩
  | enqueue hequip hadmission => exact .of_equip hequip rfl
  | proceed hfind hgoes =>
    rcases (advance_proceeds ho.distinct hfind hgoes).engine with he | ⟨f, _, he⟩
    · rw [he]
      exact .of_quiet rfl rfl (Nat.le_refl _)
    · rw [he]
      exact .of_quiet rfl rfl (Nat.le_refl _)
  | finish hfind hbegun hend =>
    rw [finish_engine]
    exact .of_quiet rfl rfl (Nat.le_refl _)
  | discard ht hhalted =>
    rw [discard_engine]
    exact .of_quiet rfl rfl (Nat.le_refl _)

end Bridge

end RequestBridge
