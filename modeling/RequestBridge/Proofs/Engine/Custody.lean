import RequestBridge.Proofs.Bridge.Holdings

/-! Tables and servers in the journal of an engine.

An engine hands out tables and servers, and takes them back by calls that name them. Each call has
its time (`Call.Timely`): nothing is taken back that is not out, or twice, and no table while a
server may still serve it. A journal in which every call has come in time is said to be in order
(`Call.InOrder`), and there everything is taken back at most once. -/
namespace RequestBridge
namespace Call

/-- Whether a call hands out or takes back a table or a server. -/
def isCustody : Call → Bool
  | .tableCreated _ => true
  | .tableFreed _ => true
  | .serverStarted _ _ _ => true
  | .serverStopped _ => true
  | _ => false

/-- Whether a call comes at the right time after the calls before it. -/
def Timely (before : List Call) : Call → Prop
  | .tableCreated t => .tableCreated t ∉ before
  | .tableFreed t => .tableCreated t ∈ before ∧ .tableFreed t ∉ before ∧
      ∀ a port, .serverStarted a port (some t) ∈ before → .serverStopped a ∈ before
  | .serverStarted a _ table => (∀ port table', .serverStarted a port table' ∉ before) ∧
      ∀ t, table = some t → .tableCreated t ∈ before ∧ .tableFreed t ∉ before
  | .serverStopped a =>
    (∃ port table, .serverStarted a port table ∈ before) ∧ .serverStopped a ∉ before
  | _ => True

/-- Calls that have come in time, each after those before it. The latest is the first. -/
def InOrder : List Call → Prop
  | [] => True
  | call :: before => call.Timely before ∧ InOrder before

theorem isCustody_of_isDealing {call : Call} (h : call.isDealing = true) :
    call.isCustody = false := by
  cases call <;> first | rfl | cases h

/-- Only the handing out and the taking back decide whether a call comes in time. -/
theorem timely_of_filter {before : List Call} (call : Call)
    (h : call.Timely (before.filter isCustody)) : call.Timely before := by
  have hmem : ∀ {c : Call}, c.isCustody = true → (c ∈ before.filter isCustody ↔ c ∈ before) := by
    intro c hc
    rw [List.mem_filter, and_iff_left hc]
  cases call with
  | tableCreated t => exact fun hbefore => h ((hmem rfl).mpr hbefore)
  | tableFreed t =>
    obtain ⟨hcreated, hfreed, hstopped⟩ := h
    refine ⟨(hmem rfl).mp hcreated, fun hbefore => hfreed ((hmem rfl).mpr hbefore), ?_⟩
    intro a port hstarted
    exact (hmem rfl).mp (hstopped a port ((hmem rfl).mpr hstarted))
  | serverStarted a port table =>
    obtain ⟨hstarted, htable⟩ := h
    refine ⟨fun port' table' hbefore => hstarted port' table' ((hmem rfl).mpr hbefore), ?_⟩
    intro t ht
    obtain ⟨hcreated, hfreed⟩ := htable t ht
    exact ⟨(hmem rfl).mp hcreated, fun hbefore => hfreed ((hmem rfl).mpr hbefore)⟩
  | serverStopped a =>
    obtain ⟨⟨port, table, hstarted⟩, hstopped⟩ := h
    exact ⟨⟨port, table, (hmem rfl).mp hstarted⟩, fun hbefore => hstopped ((hmem rfl).mpr hbefore)⟩
  | _ => trivial

theorem inOrder_of_filter {calls : List Call} (h : InOrder (calls.filter isCustody)) :
    InOrder calls := by
  induction calls with
  | nil => trivial
  | cons call before ih =>
    cases hcustody : call.isCustody with
    | true =>
      rw [List.filter_cons_of_pos hcustody] at h
      exact ⟨timely_of_filter call h.1, ih h.2⟩
    | false =>
      rw [List.filter_cons_of_neg (Bool.eq_false_iff.mp hcustody)] at h
      refine ⟨?_, ih h⟩
      cases call <;> trivial

/-- A call that comes in time only if it has not come before comes once. -/
theorem InOrder.count_le_one {calls : List Call} (h : InOrder calls) (call : Call)
    (honce : ∀ before, call.Timely before → call ∉ before) : calls.count call ≤ 1 := by
  induction calls with
  | nil => exact Nat.zero_le 1
  | cons c before ih =>
    rw [List.count_cons]
    split
    · next hsame =>
      rw [beq_iff_eq] at hsame
      exact Nat.le_of_eq (congrArg (· + 1) (List.count_eq_zero.mpr (honce before (hsame ▸ h.1))))
    · exact ih h.2

theorem InOrder.count_freed {calls : List Call} (h : InOrder calls) (t : Address) :
    calls.count (.tableFreed t) = if .tableFreed t ∈ calls then 1 else 0 := by
  have hle := h.count_le_one (.tableFreed t) fun _ htimely => htimely.2.1
  split
  · next hmem => exact Nat.le_antisymm hle (List.count_pos_iff.mpr hmem)
  · next hmem => exact List.count_eq_zero.mpr hmem

theorem InOrder.count_stopped {calls : List Call} (h : InOrder calls) (a : Address) :
    calls.count (.serverStopped a) = if .serverStopped a ∈ calls then 1 else 0 := by
  have hle := h.count_le_one (.serverStopped a) fun _ htimely => htimely.2
  split
  · next hmem => exact Nat.le_antisymm hle (List.count_pos_iff.mpr hmem)
  · next hmem => exact List.count_eq_zero.mpr hmem

/-- A table that is freed was created. -/
theorem InOrder.created_of_freed {calls : List Call} (h : InOrder calls) {t : Address}
    (hfreed : .tableFreed t ∈ calls) : .tableCreated t ∈ calls := by
  induction calls with
  | nil => cases hfreed
  | cons c before ih =>
    rcases List.mem_cons.mp hfreed with rfl | hfreed
    · exact List.mem_cons_of_mem _ h.1.1
    · exact List.mem_cons_of_mem _ (ih h.2 hfreed)

/-- A server that is stopped was started. -/
theorem InOrder.started_of_stopped {calls : List Call} (h : InOrder calls) {a : Address}
    (hstopped : .serverStopped a ∈ calls) : ∃ port table, .serverStarted a port table ∈ calls := by
  induction calls with
  | nil => cases hstopped
  | cons c before ih =>
    rcases List.mem_cons.mp hstopped with rfl | hstopped
    · obtain ⟨port, table, hstarted⟩ := h.1.1
      exact ⟨port, table, List.mem_cons_of_mem _ hstarted⟩
    · obtain ⟨port, table, hstarted⟩ := ih h.2 hstopped
      exact ⟨port, table, List.mem_cons_of_mem _ hstarted⟩

end Call

namespace Engine

/-- The calls that hand out or take back tables and servers, the latest first. -/
def custody (e : Engine) : List Call := e.journal.filter Call.isCustody

theorem custody_eq (e : Engine) : e.custody = e.business.filter Call.isCustody := by
  unfold custody business
  rw [List.filter_filter]
  refine List.filter_congr ?_
  intro call _
  cases hdealing : call.isDealing with
  | true => rw [Call.isCustody_of_isDealing hdealing]; rfl
  | false => simp

theorem custody_of_holdings {e e' : Engine} (h : e'.holdings = e.holdings) :
    e'.custody = e.custody := by
  have hbusiness : e'.business = e.business := congrArg Holdings.business h
  rw [e'.custody_eq, hbusiness, ← e.custody_eq]

theorem mem_custody {e : Engine} {call : Call} (h : call.isCustody = true) :
    call ∈ e.custody ↔ call ∈ e.journal := by
  rw [custody, List.mem_filter, and_iff_left h]

end Engine
end RequestBridge
