import RequestBridge.Proofs.Bridge.Step
import RequestBridge.Proofs.Bridge.Traffic
import RequestBridge.Proofs.Dispatch.Departure

/-! What happens on a bridge, one thing at a time.

A history is told in moves, and some moves do many things at once. Here each of them is taken
apart: a trace is a list of occurrences, in which a request arrives and departs, and between
them are the steps that change neither (`Happens`). Every history unfolds into such a trace
(`leads_run`), so what every single step keeps, every history keeps. -/
namespace RequestBridge

inductive Occurrence where
  | arrived (call : Inbound)
  | departed (departure : Departure)

namespace Occurrence

def arrival? : Occurrence → Option Inbound
  | .arrived call => some call
  | .departed _ => none

def departure? : Occurrence → Option Departure
  | .arrived _ => none
  | .departed d => some d

/-- The requests that arrive, in order. -/
def arrivals (os : List Occurrence) : List Inbound := os.filterMap arrival?

/-- The requests that depart, in order. -/
def departures (os : List Occurrence) : List Departure := os.filterMap departure?

theorem arrivals_append (os os' : List Occurrence) :
    arrivals (os ++ os') = arrivals os ++ arrivals os' :=
  List.filterMap_append

theorem departures_append (os os' : List Occurrence) :
    departures (os ++ os') = departures os ++ departures os' :=
  List.filterMap_append

end Occurrence

namespace Bridge
open Occurrence

/-- One thing that happens on a bridge, with the requests that arrive or depart in it. -/
inductive Happens : Bridge → List Occurrence → Bridge → Prop
  /-- Something that is not about requests. -/
  | managed {b b' : Bridge} (h : b.Managed b') : Happens b [] b'
  /-- A peer gives up. -/
  | cancel (b : Bridge) (flag : Address) : Happens b [] (b.cancel flag)
  | openGate (b : Bridge) (gate : String) : Happens b [] (b.openGate gate)
  /-- From now on tasks run no more. -/
  | close (b : Bridge) : Happens b [] { b with halted := true }
  | askCopy (b : Bridge) (flag : Address) : Happens b [] (b.askCopy flag)
  | dropCopy (b : Bridge) (flag : Address) : Happens b [] (b.dropCopy flag)
  /-- A request is handed over and rejected. -/
  | reject {b : Bridge} {e : Engine} {withContext withFlag cancelled : Bool} {call : Inbound}
      {attached : Option ServerId} {reason : Rejection} (events : List Log.Event)
      (hequip : b.engine.equip withContext withFlag cancelled = (e, call.context, call.flag))
      (hadmission : { b with engine := e }.admission attached call = .error reason) :
      Happens b
        [.arrived call,
          .departed ⟨call.context, call.flag, .rejected reason, e.isCancelled call.flag⟩]
        (({ b with engine := e }.say events).reject call reason)
  /-- A request is handed over and becomes a task. -/
  | enqueue {b : Bridge} {e : Engine} {withContext withFlag cancelled : Bool} {call : Inbound}
      {attached : Option ServerId} {act : Act Outcome}
      (hequip : b.engine.equip withContext withFlag cancelled = (e, call.context, call.flag))
      (hadmission : { b with engine := e }.admission attached call = .ok act) :
      Happens b [.arrived call] ({ b with engine := e }.enqueue call act)
  /-- A task takes a step and does not end. -/
  | proceed {b : Bridge} {id : TaskId} {t : Task} (hfind : b.task? id = some t)
      (hgoes : t.begun = true → t.act.end? = none) : Happens b [] (b.advance id)
  /-- A task takes its last step. -/
  | finish {b : Bridge} {t : Task} {result : Except Payload Outcome}
      (hfind : b.task? t.id = some t) (hbegun : t.begun = true) (hend : t.act.end? = some result) :
      Happens b
        [.departed ⟨t.context, t.flag, .settled result, b.engine.isCancelled t.flag⟩]
        (b.finish t result)
  /-- A task is dropped where tasks run no more. -/
  | discard {b : Bridge} {t : Task} (ht : t ∈ b.tasks) (hhalted : b.halted = true) :
      Happens b
        [.departed ⟨t.context, t.flag, .dropped, b.engine.isCancelled t.flag⟩] (b.discard t)

/-- One thing after another. -/
inductive Unfolds : Bridge → List Occurrence → Bridge → Prop
  | refl (b : Bridge) : Unfolds b [] b
  | step {b b' b'' : Bridge} {os os' : List Occurrence} (h : Happens b os b')
      (rest : Unfolds b' os' b'') : Unfolds b (os ++ os') b''

theorem Happens.unfolds {b b' : Bridge} {os : List Occurrence} (h : Happens b os b') :
    Unfolds b os b' := by
  have hstep := Unfolds.step h (.refl b')
  rwa [List.append_nil] at hstep

theorem Unfolds.trans {b b' b'' : Bridge} {os os' : List Occurrence} (h : Unfolds b os b')
    (h' : Unfolds b' os' b'') : Unfolds b (os ++ os') b'' := by
  induction h with
  | refl _ => exact h'
  | step hstep _ ih =>
    rw [List.append_assoc]
    exact .step hstep (ih h')

/-! ### Tasks keep their numbers -/

/-- No two tasks have the same number, and none has a number that is yet to be given. -/
structure Orderly (b : Bridge) : Prop where
  distinct : Task.Distinct b.tasks
  bounded : ∀ t ∈ b.tasks, t.id < b.nextTask

theorem orderly_new (profile : Profile) : (Bridge.new profile).Orderly :=
  ⟨List.nodup_nil, fun _ ht => by cases ht⟩

theorem Orderly.of_perm {b b' : Bridge} (h : b.Orderly)
    (hperm : (b'.tasks.map (·.id)).Perm (b.tasks.map (·.id))) (hnext : b'.nextTask = b.nextTask) :
    b'.Orderly := by
  refine ⟨hperm.nodup_iff.mpr h.distinct, ?_⟩
  intro t ht
  have hid : t.id ∈ b.tasks.map (·.id) := hperm.mem_iff.mp (List.mem_map.mpr ⟨t, ht, rfl⟩)
  obtain ⟨u, hu, huid⟩ := List.mem_map.mp hid
  rw [hnext, ← huid]
  exact h.bounded u hu

theorem Orderly.of_eq {b b' : Bridge} (h : b.Orderly) (htasks : b'.tasks = b.tasks)
    (hnext : b'.nextTask = b.nextTask) : b'.Orderly :=
  h.of_perm (by rw [htasks]) hnext

theorem Orderly.of_without {b b' : Bridge} (h : b.Orderly) {id : TaskId}
    (htasks : b'.tasks = Task.without b.tasks id) (hnext : b'.nextTask = b.nextTask) :
    b'.Orderly := by
  refine ⟨?_, ?_⟩
  · rw [Task.Distinct, htasks]
    exact h.distinct.sublist (List.filter_sublist.map _)
  · intro t ht
    rw [htasks] at ht
    rw [hnext]
    exact h.bounded t (Task.mem_without.mp ht).1

theorem Orderly.of_enqueue {b b' : Bridge} (h : b.Orderly) {t : Task}
    (hid : t.id = b.nextTask) (htasks : b'.tasks = b.tasks ++ [t])
    (hnext : b'.nextTask = b.nextTask + 1) : b'.Orderly := by
  refine ⟨?_, ?_⟩
  · rw [Task.Distinct, htasks, List.map_append]
    refine List.nodup_append.mpr ⟨h.distinct, List.nodup_singleton _, ?_⟩
    intro i hi j hj hij
    obtain ⟨u, hu, rfl⟩ := List.mem_map.mp hi
    have hlast : j = t.id := List.mem_singleton.mp hj
    exact Nat.ne_of_lt (h.bounded u hu) ((hij.trans hlast).trans hid)
  · intro u hu
    rw [htasks] at hu
    rw [hnext]
    rcases List.mem_append.mp hu with hu | hu
    · exact Nat.lt_succ_of_lt (h.bounded u hu)
    · rw [List.mem_singleton.mp hu, hid]
      exact Nat.lt_succ_self _

/-- What happens leaves the numbers of tasks in order. -/
theorem Happens.orderly {b b' : Bridge} {os : List Occurrence} (h : Happens b os b')
    (ho : b.Orderly) : b'.Orderly := by
  cases h with
  | managed h => exact ho.of_eq (congrArg Traffic.tasks h.traffic) (congrArg Traffic.nextTask h.traffic)
  | cancel flag => exact ho.of_eq rfl rfl
  | openGate gate =>
    refine ho.of_perm (((b.openGate_tasks gate).map _).trans ?_) rfl
    rw [List.map_map]
    refine .of_eq (List.map_congr_left ?_)
    intro t _
    exact congrArg (·.1) (t.ticket_through gate)
  | close => exact ho.of_eq rfl rfl
  | askCopy flag =>
    unfold Bridge.askCopy
    split
    · exact ho.of_eq rfl rfl
    · exact ho
  | dropCopy flag =>
    unfold Bridge.dropCopy
    split
    · exact ho.of_eq rfl rfl
    · exact ho
  | reject events hequip hadmission => exact ho.of_eq rfl rfl
  | enqueue hequip hadmission =>
    exact Orderly.of_enqueue ⟨ho.distinct, ho.bounded⟩ rfl rfl rfl
  | proceed hfind hgoes =>
    have hstep := advance_proceeds ho.distinct hfind hgoes
    refine ho.of_perm ((hstep.tasks.map _).trans ?_) hstep.nextTask
    rw [Task.map_replaced ho.distinct (mem_of_task? hfind).1 (Task.id_next ..) (·.id) (Task.id_next ..)]
  | finish hfind hbegun hend => exact ho.of_without rfl rfl
  | discard ht hhalted => exact ho.of_without rfl rfl

theorem Unfolds.orderly {b b' : Bridge} {os : List Occurrence} (h : Unfolds b os b')
    (ho : b.Orderly) : b'.Orderly := by
  induction h with
  | refl _ => exact ho
  | step hstep _ ih => exact ih (hstep.orderly ho)

/-! ### Moves taken apart -/

/-- The bridge becomes the other one, and the given requests arrive meanwhile. -/
def Leads (b : Bridge) (calls : List Inbound) (b' : Bridge) : Prop :=
  ∃ os, Unfolds b os b' ∧ arrivals os = calls

theorem Leads.refl (b : Bridge) : Leads b [] b := ⟨[], .refl b, rfl⟩

theorem Leads.trans {b b' b'' : Bridge} {calls calls' : List Inbound} (h : Leads b calls b')
    (h' : Leads b' calls' b'') : Leads b (calls ++ calls') b'' := by
  obtain ⟨os, hos, hcalls⟩ := h
  obtain ⟨os', hos', hcalls'⟩ := h'
  exact ⟨os ++ os', hos.trans hos', by rw [arrivals_append, hcalls, hcalls']⟩

theorem Leads.orderly {b b' : Bridge} {calls : List Inbound} (h : Leads b calls b')
    (ho : b.Orderly) : b'.Orderly := by
  obtain ⟨_, hos, _⟩ := h
  exact hos.orderly ho

theorem Happens.leads {b b' : Bridge} {os : List Occurrence} (h : Happens b os b') :
    Leads b (arrivals os) b' := ⟨os, h.unfolds, rfl⟩

theorem leads_advance (b : Bridge) (id : TaskId) : Leads b [] (b.advance id) := by
  rcases b.advance_cases id with hself | ⟨t, result, hfind, hbegun, hend⟩ | ⟨t, hfind, hgoes⟩
  · rw [hself]
    exact .refl b
  · rw [advance_finish hfind hbegun hend]
    obtain ⟨-, rfl⟩ := mem_of_task? hfind
    exact (Happens.finish hfind hbegun hend).leads
  · exact (Happens.proceed hfind hgoes).leads

theorem Goes.leads {b b' : Bridge} (h : b.Goes b') : Leads b [] b' := by
  obtain ⟨ids, rfl⟩ := h
  induction ids generalizing b with
  | nil => exact .refl b
  | cons id rest ih => exact (b.leads_advance id).trans ih

/-- Tasks that are dropped one after another, each of them while it is still there. -/
theorem leads_discards (ts : List Task) (b : Bridge) (hd : Task.Distinct ts)
    (hmem : ∀ t ∈ ts, t ∈ b.tasks) (hhalted : b.halted = true) :
    Leads b [] (ts.foldl discard b) := by
  induction ts generalizing b with
  | nil => exact .refl b
  | cons t rest ih =>
    obtain ⟨ht, hrest⟩ := List.nodup_cons.mp hd
    have hfirst : Leads b [] (b.discard t) :=
      (Happens.discard (hmem t (List.mem_cons_self ..)) hhalted).leads
    refine hfirst.trans (ih (b.discard t) hrest ?_ hhalted)
    intro u hu
    refine Task.mem_without.mpr ⟨hmem u (List.mem_cons_of_mem t hu), ?_⟩
    intro hid
    exact ht (List.mem_map.mpr ⟨u, hu, hid⟩)

theorem leads_halt {b : Bridge} (ho : b.Orderly) : Leads b [] b.halt := by
  have hperm := List.mergeSort_perm b.tasks fun t u => decide (t.id ≤ u.id)
  refine (Happens.close b).leads.trans (leads_discards _ _ ?_ ?_ rfl)
  · exact (hperm.map _).nodup_iff.mpr ho.distinct
  · intro t ht
    exact hperm.mem_iff.mp ht

/-! ### Requests that are handed over -/

theorem leads_spawn {b : Bridge} {e : Engine} {withContext withFlag cancelled : Bool}
    {call : Inbound} {attached : Option ServerId} {act : Act Outcome}
    (hequip : b.engine.equip withContext withFlag cancelled = (e, call.context, call.flag))
    (hadmission : { b with engine := e }.admission attached call = .ok act) :
    Leads b [call] ({ b with engine := e }.spawn call act) := by
  have hqueued : Leads b [call] ({ b with engine := e }.enqueue call act) :=
    (Happens.enqueue hequip hadmission).leads
  rw [spawn_eq]
  split
  · next hhalted =>
    have hmem : newTask { b with engine := e } call act ∈
        ({ b with engine := e }.enqueue call act).tasks :=
      List.mem_append_right _ (List.mem_singleton.mpr rfl)
    exact hqueued.trans (Happens.discard hmem hhalted).leads
  · exact hqueued

/-- A request that is handed over is rejected at once or becomes a task. -/
theorem handOver_cases (b : Bridge) (attached : Option ServerId)
    (withContext withFlag cancelled : Bool) (route : UInt16) (frame : Option Bytes) :
    let handed := b.handOver attached withContext withFlag cancelled route frame
    match b.admission attached handed.2 with
    | .error reason =>
      (∃ gone, Happens b
        [.arrived handed.2, .departed ⟨handed.2.context, handed.2.flag, .rejected reason, gone⟩]
        handed.1) ∧
      handed.1.flags = b.flags
    | .ok _ => Leads b [handed.2] handed.1 := by
  obtain ⟨⟨e, context, flag⟩, hequip⟩ :
      ∃ equipped, b.engine.equip withContext withFlag cancelled = equipped := ⟨_, rfl⟩
  have hhanded : b.handOver attached withContext withFlag cancelled route frame =
      (receive { b with engine := e } attached ⟨route, frame, context, flag⟩,
        ⟨route, frame, context, flag⟩) := by
    rw [handOver, hequip]
  obtain ⟨events, hreceive⟩ :=
    receive_eq { b with engine := e } attached ⟨route, frame, context, flag⟩
  have hsame : { b with engine := e }.admission attached ⟨route, frame, context, flag⟩ =
    b.admission attached ⟨route, frame, context, flag⟩ := rfl
  rw [hhanded]
  dsimp only
  rw [hreceive, hsame]
  cases hadmission : b.admission attached ⟨route, frame, context, flag⟩ with
  | error reason => exact ⟨⟨_, .reject events hequip hadmission⟩, rfl⟩
  | ok act => exact leads_spawn hequip hadmission

theorem leads_handOver (b : Bridge) (attached : Option ServerId)
    (withContext withFlag cancelled : Bool) (route : UInt16) (frame : Option Bytes) :
    Leads b [(b.handOver attached withContext withFlag cancelled route frame).2]
      (b.handOver attached withContext withFlag cancelled route frame).1 := by
  have hcases := b.handOver_cases attached withContext withFlag cancelled route frame
  dsimp only at hcases
  split at hcases
  · obtain ⟨⟨_, h⟩, _⟩ := hcases
    exact h.leads
  · exact hcases

/-- The request that comes of sending bytes, if a server is attached. -/
def sent? (b : Bridge) (route : UInt16) (frame : Bytes) (cancelled : Bool) : Option Inbound :=
  b.engine.attached.map fun s => (b.handOver (some s) true true cancelled route (some frame)).2

/-- The request that a move hands over, with the addresses that it is equipped with. -/
def inbound? (b : Bridge) : Move → Option Inbound
  | .handOver attached withContext withFlag cancelled route frame =>
    some (b.handOver attached withContext withFlag cancelled route frame).2
  | .sendFrame route frame cancelled => b.sent? route frame cancelled
  | .sendRequest o =>
    (o.route <|> b.engine.resolve .get o.path).bind fun route => b.sent? route o.frame o.cancelled
  | _ => none

/-- The requests that are handed over in a history, in order. -/
def inbounds (b : Bridge) : List Move → List Inbound
  | [] => []
  | move :: rest => (b.inbound? move).toList ++ (b.apply move).inbounds rest

theorem inbounds_append (b : Bridge) (before after : List Move) :
    b.inbounds (before ++ after) = b.inbounds before ++ (b.run before).inbounds after := by
  induction before generalizing b with
  | nil => rfl
  | cons move rest ih =>
    rw [List.cons_append, inbounds, inbounds, ih, List.append_assoc]
    rfl

/-- To send bytes is to hand over a request with a context and a flag to the attached server. -/
theorem sendFrame_eq (b : Bridge) (route : UInt16) (frame : Bytes) (cancelled : Bool) :
    b.sendFrame route frame cancelled =
      match b.engine.attached with
      | none => .error .notRunning
      | some s =>
        .ok ((b.handOver (some s) true true cancelled route (some frame)).1,
          ⟨b.engine.next, b.engine.next + b.engine.profile.stride⟩) := by
  unfold sendFrame
  cases b.engine.attached with
  | none => rfl
  | some s => cases cancelled <;> rfl

theorem leads_sendFrame (b : Bridge) (route : UInt16) (frame : Bytes) (cancelled : Bool) :
    Leads b (b.sent? route frame cancelled).toList
      (((b.sendFrame route frame cancelled).map (·.1)).toOption.getD b) := by
  rw [sendFrame_eq, sent?]
  cases b.engine.attached with
  | none => exact .refl b
  | some s => exact b.leads_handOver (some s) true true cancelled route (some frame)

theorem leads_sendRequest (b : Bridge) (o : Client.Outbound) :
    Leads b (b.inbound? (.sendRequest o)).toList
      (((b.sendRequest o).map (·.1)).toOption.getD b) := by
  unfold sendRequest
  dsimp only [inbound?]
  cases o.route <|> b.engine.resolve .get o.path with
  | none => exact .refl b
  | some route => exact b.leads_sendFrame route o.frame o.cancelled

/-! ### Histories taken apart -/

/-- Every move is one thing after another. -/
theorem leads_apply {b : Bridge} (ho : b.Orderly) (m : Move) :
    Leads b (b.inbound? m).toList (b.apply m) := by
  cases hm : m.isManagement with
  | true =>
    have hnone : b.inbound? m = none := by
      cases m <;> first | rfl | cases hm
    rw [hnone]
    exact (Happens.managed (b.managed_apply m hm)).leads
  | false =>
    cases m with
    | handOver attached withContext withFlag cancelled route frame =>
      exact b.leads_handOver attached withContext withFlag cancelled route frame
    | sendFrame route frame cancelled => exact b.leads_sendFrame route frame cancelled
    | sendRequest o => exact b.leads_sendRequest o
    | cancel flag => exact (Happens.cancel b flag).leads
    | advance id => exact b.leads_advance id
    | drive => exact b.goes_drive.leads
    | openGate gate => exact (Happens.openGate b gate).leads
    | halt => exact leads_halt ho
    | askCopy flag => exact (Happens.askCopy b flag).leads
    | dropCopy flag => exact (Happens.dropCopy b flag).leads
    | _ => cases hm

/-- Every history is one thing after another. -/
theorem leads_run {b : Bridge} (ho : b.Orderly) (h : List Move) :
    Leads b (b.inbounds h) (b.run h) := by
  induction h generalizing b with
  | nil => exact .refl b
  | cons m rest ih =>
    have hfirst := leads_apply ho m
    exact hfirst.trans (ih (hfirst.orderly ho))

end Bridge
end RequestBridge
