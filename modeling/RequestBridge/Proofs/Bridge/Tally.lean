import RequestBridge.Proofs.Bridge.Handovers
import Mathlib.Algebra.GroupWithZero.Nat

/-! What is counted of the requests adds up.

The totals, the durations and the gauge are written at different moments: when a request is
rejected, when its task begins, when its chain ends and when its task is dropped. Each thing that
happens keeps them in agreement with what has happened and with the tasks that are there
(`Happens.tallied`), so they agree in every state. -/
namespace RequestBridge

/-- What the result of a chain counts as. -/
def Verdict.ofResult : Except Payload Outcome → Verdict
  | .ok (.ok _) => .completed
  | .ok (.error (.http _)) => .httpError
  | .ok (.error .cancelled) => .cancelled
  | .ok (.error (.other _)) => .failed
  | .error _ => .failed

theorem settle_verdict (route : UInt16) (result : Except Payload Outcome) :
    (settle route result).verdict = .ofResult result := by
  rcases result with payload | failure | response
  · rfl
  · cases failure <;> rfl
  · rfl

theorem Verdict.ofResult_ne_rejected (result : Except Payload Outcome) :
    Verdict.ofResult result ≠ .rejected := by
  rcases result with payload | failure | response
  · exact nofun
  · cases failure <;> exact nofun
  · exact nofun

/-- What a request that has ended counts as. One whose task was dropped is not counted. -/
def Ending.verdict? : Ending → Option Verdict
  | .rejected _ => some .rejected
  | .settled result => some (.ofResult result)
  | .dropped => none

namespace Metrics

theorem totals_count (m : Metrics) (v w : Verdict) :
    (m.count v).totals w = m.totals w + if w = v then 1 else 0 := by
  show (if w = v then m.totals w + 1 else m.totals w) = _
  split <;> rfl

theorem length_durations_observe (m : Metrics) (v : Verdict) (micros : Nat) (w : Verdict) :
    ((m.observe v micros).durations w).length =
      (m.durations w).length + if w = v then 1 else 0 := by
  show (if w = v then micros :: m.durations w else m.durations w).length = _
  split <;> rfl

end Metrics

/-! ### Tasks that run -/

namespace Task

theorem begun_next (t : Task) (gates : List String) (gone : Bool) :
    (t.next gates gone).begun = true := by
  unfold next
  split
  · next hbegun =>
    split <;> first | exact hbegun | (split <;> exact hbegun)
  · rfl

theorem begun_through (t : Task) (gate : String) : (t.through gate).begun = t.begun := by
  unfold through
  split <;> rfl

/-- How many tasks have begun. -/
def running (ts : List Task) : Nat := ts.countP (·.begun)

theorem running_without {ts : List Task} (hd : Distinct ts) {t : Task} (ht : t ∈ ts) :
    running ts = running (without ts t.id) + if t.begun then 1 else 0 := by
  rw [running, (perm_cons_without hd ht).countP_eq, List.countP_cons]
  rfl

theorem running_replaced {ts : List Task} (hd : Distinct ts) {t t' : Task} (ht : t ∈ ts)
    (hid : t'.id = t.id) :
    running (replaced ts t') = running (without ts t.id) + if t'.begun then 1 else 0 := by
  rw [running, ← (perm_replaced hd ht hid).countP_eq, List.countP_append, List.countP_singleton]
  rfl

end Task

/-! ### Requests by their endings -/

namespace Occurrence

/-- How many requests have ended with a verdict. -/
def tally (os : List Occurrence) (v : Verdict) : Nat :=
  (departures os).countP fun d => d.ending.verdict? == some v

/-- How many tasks have been dropped unfinished. -/
def drops (os : List Occurrence) : Nat := (departures os).countP fun d => d.ending.verdict?.isNone

theorem tally_append (os os' : List Occurrence) (v : Verdict) :
    tally (os ++ os') v = tally os v + tally os' v := by
  rw [tally, departures_append, List.countP_append]
  rfl

theorem drops_append (os os' : List Occurrence) : drops (os ++ os') = drops os + drops os' := by
  rw [drops, departures_append, List.countP_append]
  rfl

theorem tally_of_departure {os : List Occurrence} {d : Departure} (h : departures os = [d])
    (v : Verdict) : tally os v = if d.ending.verdict? = some v then 1 else 0 := by
  rw [tally, h, List.countP_singleton]
  simp only [beq_iff_eq]

/-- Every request that has departed has a verdict or was dropped. -/
theorem sum_tally (os : List Occurrence) :
    (Verdict.all.map (tally os)).sum + drops os = (departures os).length := by
  unfold tally drops
  induction departures os with
  | nil => rfl
  | cons d ds ih =>
    simp only [Verdict.all, List.map_cons, List.map_nil, List.sum_cons, List.sum_nil,
      List.countP_cons, List.length_cons] at ih ⊢
    cases hverdict : d.ending.verdict? with
    | none =>
      simp
      omega
    | some v =>
      cases v <;> simp <;> omega

end Occurrence

namespace Bridge
open Occurrence

/-- What is counted agrees with what has happened and with the tasks that are there. -/
structure Tallied (os : List Occurrence) (b : Bridge) : Prop where
  totals : ∀ v, b.metrics.totals v = tally os v
  durations : ∀ v, (b.metrics.durations v).length = if v = .rejected then 0 else tally os v
  running : b.metrics.inFlight = (Task.running b.tasks : Int)
  dropped : b.halted = false → drops os = 0

theorem tallied_new (profile : Profile) : Tallied [] (Bridge.new profile) where
  totals _ := rfl
  durations v := by
    show 0 = _
    split <;> rfl
  running := rfl
  dropped _ := rfl

variable {b b' : Bridge} {os os' : List Occurrence}

theorem finish_metrics (b : Bridge) (t : Task) (result : Except Payload Outcome) :
    (b.finish t result).metrics = (b.metrics.recordDispatch (.ofResult result) 0).leave := by
  rw [← settle_verdict t.route]
  rfl

/-- Something in which no request departs. -/
theorem Tallied.of_quiet (a : Tallied os b) (hos : departures os' = [])
    (htotals : b'.metrics.totals = b.metrics.totals)
    (hdurations : b'.metrics.durations = b.metrics.durations)
    (hrunning : b'.metrics.inFlight = (Task.running b'.tasks : Int))
    (hhalted : b'.halted = false → b.halted = false) : Tallied (os ++ os') b' := by
  have htally : ∀ v, tally (os ++ os') v = tally os v := by
    intro v
    rw [tally, departures_append, hos, List.append_nil]
    rfl
  refine ⟨?_, ?_, hrunning, ?_⟩
  · intro v
    rw [htally, htotals, a.totals]
  · intro v
    rw [htally, hdurations, a.durations]
  · intro hruns
    rw [drops, departures_append, hos, List.append_nil]
    exact a.dropped (hhalted hruns)

/-- Something in which one request ends with a verdict. -/
theorem Tallied.of_verdict (a : Tallied os b) {d : Departure} (hos : departures os' = [d])
    {v : Verdict} (hv : d.ending.verdict? = some v)
    (htotals : ∀ w, b'.metrics.totals w = b.metrics.totals w + if w = v then 1 else 0)
    (hdurations : ∀ w, (b'.metrics.durations w).length =
      (b.metrics.durations w).length + if w = v ∧ w ≠ .rejected then 1 else 0)
    (hrunning : b'.metrics.inFlight = (Task.running b'.tasks : Int))
    (hhalted : b'.halted = b.halted) : Tallied (os ++ os') b' := by
  have htally : ∀ w, tally (os ++ os') w = tally os w + if w = v then 1 else 0 := by
    intro w
    rw [tally_append, tally_of_departure hos, hv]
    simp only [Option.some.injEq, eq_comm]
  refine ⟨?_, ?_, hrunning, ?_⟩
  · intro w
    rw [htotals, htally, a.totals]
  · intro w
    rw [hdurations, htally, a.durations]
    by_cases hw : w = .rejected <;> simp [hw]
  · intro hruns
    rw [drops_append, a.dropped (hhalted ▸ hruns), drops, hos, List.countP_singleton, hv]
    rfl

/-- The gauge tells the tasks that have begun, one of them apart. -/
theorem Tallied.running_apart (a : Tallied os b) (ho : b.Orderly) {t : Task} (ht : t ∈ b.tasks) :
    b.metrics.inFlight =
      (Task.running (Task.without b.tasks t.id) : Int) + if t.begun then 1 else 0 := by
  rw [a.running, Task.running_without ho.distinct ht]
  split <;> rfl

theorem Tallied.proceed (a : Tallied os b) (ho : b.Orderly) {id : TaskId} {t : Task}
    (hfind : b.task? id = some t) (hgoes : t.begun = true → t.act.end? = none) :
    Tallied (os ++ []) (b.advance id) := by
  have hstep := advance_proceeds ho.distinct hfind hgoes
  have ht := (mem_of_task? hfind).1
  have hbefore := a.running_apart ho ht
  have hnow : Task.running (b.advance id).tasks =
      Task.running (Task.without b.tasks t.id) + 1 := by
    rw [Task.running, hstep.tasks.countP_eq]
    refine (Task.running_replaced ho.distinct ht (t.id_next ..)).trans ?_
    rw [if_pos (t.begun_next ..)]
  refine a.of_quiet rfl ?_ ?_ ?_ (fun h => hstep.halted ▸ h)
  · rw [hstep.metrics]
    split <;> rfl
  · rw [hstep.metrics]
    split <;> rfl
  · rw [hstep.metrics, hnow]
    split
    · next hbegun =>
      rw [if_pos hbegun] at hbefore
      exact hbefore
    · next hbegun =>
      rw [if_neg hbegun, Int.add_zero] at hbefore
      exact congrArg (· + 1) hbefore

theorem Tallied.finish (a : Tallied os b) (ho : b.Orderly) {t : Task} (ht : t ∈ b.tasks)
    (hbegun : t.begun = true) (result : Except Payload Outcome) (gone : Bool) :
    Tallied (os ++ [.departed ⟨t.context, t.flag, .settled result, gone⟩]) (b.finish t result) := by
  have hbefore := a.running_apart ho ht
  rw [if_pos hbegun] at hbefore
  refine a.of_verdict rfl (v := .ofResult result) rfl ?_ ?_ ?_ rfl
  · rw [finish_metrics]
    exact b.metrics.totals_count _
  · intro w
    have hchain : w = .ofResult result ∧ w ≠ .rejected ↔ w = .ofResult result := by
      refine and_iff_left_of_imp ?_
      rintro rfl
      exact Verdict.ofResult_ne_rejected result
    rw [finish_metrics]
    simp only [hchain]
    exact (b.metrics.count _).length_durations_observe (.ofResult result) 0 w
  · show b.metrics.inFlight - 1 = (Task.running (Task.without b.tasks t.id) : Int)
    omega

theorem Tallied.discard (a : Tallied os b) (ho : b.Orderly) {t : Task} (ht : t ∈ b.tasks)
    (hhalted : b.halted = true) (gone : Bool) :
    Tallied (os ++ [.departed ⟨t.context, t.flag, .dropped, gone⟩]) (b.discard t) := by
  have hbefore := a.running_apart ho ht
  have htally : ∀ v,
      tally (os ++ [.departed ⟨t.context, t.flag, .dropped, gone⟩]) v = tally os v := by
    intro v
    rw [tally_append]
    rfl
  refine ⟨?_, ?_, ?_, fun hruns => absurd (hhalted.symm.trans hruns) nofun⟩
  · intro v
    rw [htally, ← a.totals]
    show (if t.begun then b.metrics.leave else b.metrics).totals v = _
    split <;> rfl
  · intro v
    rw [htally, ← a.durations]
    show ((if t.begun then b.metrics.leave else b.metrics).durations v).length = _
    split <;> rfl
  · show (if t.begun then b.metrics.leave else b.metrics).inFlight =
      (Task.running (Task.without b.tasks t.id) : Int)
    split
    · next hbegun =>
      rw [if_pos hbegun] at hbefore
      show b.metrics.inFlight - 1 = _
      omega
    · next hbegun =>
      rw [if_neg hbegun, Int.add_zero] at hbefore
      exact hbefore

/-- Whatever happens, what is counted still agrees with it. -/
theorem Happens.tallied (h : Happens b os' b') (ho : b.Orderly) (a : Tallied os b) :
    Tallied (os ++ os') b' := by
  cases h with
  | managed h =>
    have hmetrics : b'.metrics = b.metrics := congrArg Traffic.metrics h.traffic
    have htasks : b'.tasks = b.tasks := congrArg Traffic.tasks h.traffic
    have hhalted : b'.halted = b.halted := congrArg Traffic.halted h.traffic
    refine a.of_quiet rfl (by rw [hmetrics]) (by rw [hmetrics]) ?_ (fun h => hhalted ▸ h)
    rw [hmetrics, htasks]
    exact a.running
  | cancel flag => exact a.of_quiet rfl rfl rfl a.running id
  | openGate gate =>
    refine a.of_quiet rfl rfl rfl ?_ id
    rw [Task.running, (b.openGate_tasks gate).countP_eq, List.countP_map]
    refine a.running.trans (congrArg Int.ofNat (List.countP_congr fun t _ => ?_))
    rw [Function.comp_apply, t.begun_through]
  | close => exact a.of_quiet rfl rfl rfl a.running nofun
  | askCopy flag =>
    unfold Bridge.askCopy
    split <;> exact a.of_quiet rfl rfl rfl a.running id
  | dropCopy flag =>
    unfold Bridge.dropCopy
    split <;> exact a.of_quiet rfl rfl rfl a.running id
  | reject events hequip hadmission =>
    refine a.of_verdict rfl rfl (b.metrics.totals_count .rejected) ?_ a.running rfl
    intro w
    rw [if_neg fun hw => hw.2 hw.1]
    rfl
  | enqueue hequip hadmission =>
    refine a.of_quiet rfl rfl rfl (a.running.trans ?_) id
    show _ = (Task.running (b.tasks ++ [_]) : Int)
    rw [Task.running, Task.running, List.countP_append]
    rfl
  | proceed hfind hgoes => exact a.proceed ho hfind hgoes
  | finish hfind hbegun hend => exact a.finish ho (mem_of_task? hfind).1 hbegun ..
  | discard ht hhalted => exact a.discard ho ht hhalted _

theorem Unfolds.tallied (h : Unfolds b os' b') (ho : b.Orderly) (a : Tallied os b) :
    Tallied (os ++ os') b' := by
  induction h generalizing os with
  | refl b =>
    rw [List.append_nil]
    exact a
  | step hstep _ ih =>
    rw [← List.append_assoc]
    exact ih (hstep.orderly ho) (hstep.tallied ho a)

theorem discard_totals (b : Bridge) (t : Task) :
    (b.discard t).metrics.totals = b.metrics.totals := by
  show (if t.begun then b.metrics.leave else b.metrics).totals = _
  split <;> rfl

theorem discards_totals (ts : List Task) (b : Bridge) :
    (ts.foldl discard b).metrics.totals = b.metrics.totals := by
  induction ts generalizing b with
  | nil => rfl
  | cons t rest ih => exact (ih _).trans (b.discard_totals t)

/-! ### Requests that are rejected -/

/-- A request that is handed over is counted at once if it is rejected, and else it is not. -/
theorem HandsOver.totals {x : Handover} (h : b.HandsOver x b') (v : Verdict) :
    b'.metrics.totals v =
      b.metrics.totals v + if v = .rejected ∧ x.admission.isOk = false then 1 else 0 := by
  obtain ⟨attached, withContext, withFlag, cancelled, route, frame, rfl, rfl⟩ := h
  rw [handOver_eq]
  generalize (b.engine.equip withContext withFlag cancelled).1 = e
  generalize (b.handOver attached withContext withFlag cancelled route frame).2 = call
  obtain ⟨events, hreceive⟩ := receive_eq { b with engine := e } attached call
  have hadmission : { b with engine := e }.admission attached call =
    Handover.admission ⟨attached.bind b.dispatcher?, call⟩ := rfl
  rw [hreceive, hadmission]
  cases Handover.admission ⟨attached.bind b.dispatcher?, call⟩ with
  | error reason =>
    refine (b.metrics.totals_count .rejected v).trans (congrArg _ (if_congr ?_ rfl rfl))
    exact (and_iff_left rfl).symm
  | ok chain =>
    rw [if_neg fun h => nomatch h.2]
    dsimp only
    rw [spawn_eq]
    split
    · rw [discard_totals]
      rfl
    · rfl

/-- Where no request comes, none is rejected. -/
theorem Unfolds.not_rejected (h : Unfolds b os b') (hos : arrivals os = []) :
    tally os .rejected = 0 := by
  induction h with
  | refl _ => rfl
  | @step _ _ _ os os' hstep _ ih =>
    rw [arrivals_append] at hos
    obtain ⟨hnow, hlater⟩ := List.append_eq_nil_iff.mp hos
    rw [tally_append, ih hlater, Nat.add_zero]
    cases hstep with
    | reject events hequip hadmission => cases hnow
    | @finish t result hfind hbegun hend =>
      rw [tally_of_departure rfl]
      exact if_neg fun h => Verdict.ofResult_ne_rejected result (Option.some.inj h)
    | _ => rfl

theorem rejected_apply (ho : b.Orderly) (a : Tallied os b) (m : Move) :
    (b.apply m).metrics.totals .rejected = b.metrics.totals .rejected +
      (b.handover? m).toList.countP fun x => !x.admission.isOk := by
  cases hhanded : b.handover? m with
  | some x =>
    rw [(handsOver_apply hhanded).totals, Option.toList_some, List.countP_singleton]
    simp
  | none =>
    obtain ⟨os', hos', harrivals⟩ := leads_apply ho m
    rw [Option.map_eq_none_iff.mp hhanded] at harrivals
    rw [(hos'.tallied ho a).totals, tally_append, hos'.not_rejected harrivals, ← a.totals]
    rfl

/-- The rejected requests are those that were handed over and refused. -/
theorem rejected_run (ho : b.Orderly) (a : Tallied os b) (h : List Move) :
    (b.run h).metrics.totals .rejected = b.metrics.totals .rejected +
      (b.handovers h).countP fun x => !x.admission.isOk := by
  induction h generalizing b os with
  | nil => rfl
  | cons m rest ih =>
    obtain ⟨os', hos', -⟩ := leads_apply ho m
    rw [run_cons, ih (hos'.orderly ho) (hos'.tallied ho a), rejected_apply ho a, handovers,
      List.countP_append, Nat.add_assoc]

/-- In every state that a new bridge comes to, also in the middle of a move, the requests that
were handed over are those counted under the five verdicts, those whose tasks are there, and
those whose tasks were dropped, which happens only where tasks run no more. Each verdict counts
the requests that ended so, all but the rejected ones with a duration each, and the gauge tells
how many tasks have begun. The rejected ones are the handovers that were refused. What a chain
counts as depends on its result alone, and where tasks are dropped no total changes and the gauge
goes down to zero. -/
theorem metrics_are_conserved (profile : Profile) :
    (∀ os b, Unfolds (Bridge.new profile) os b →
      (arrivals os).length = (Verdict.all.map b.metrics.totals).sum + b.tasks.length + drops os ∧
      (b.halted = false → drops os = 0) ∧
      (∀ v, b.metrics.totals v = tally os v) ∧
      (∀ v, v ≠ .rejected → (b.metrics.durations v).length = b.metrics.totals v) ∧
      b.metrics.durations .rejected = [] ∧
      b.metrics.inFlight = (Task.running b.tasks : Int) ∧
      0 ≤ b.metrics.inFlight ∧
      (b.tasks = [] → b.metrics.inFlight = 0)) ∧
    ∀ h : List Move,
      let b := (Bridge.new profile).run h
      (∃ os, Unfolds (Bridge.new profile) os b ∧ arrivals os = (Bridge.new profile).inbounds h) ∧
      b.metrics.totals .rejected =
        ((Bridge.new profile).handovers h).countP (fun x => !x.admission.isOk) ∧
      (∀ t ∈ b.tasks, ∀ result, t.begun = true → t.act.end? = some result → ∀ v,
        (b.advance t.id).metrics.totals v =
          b.metrics.totals v + if v = .ofResult result then 1 else 0) ∧
      b.halt.tasks = [] ∧ b.halt.metrics.totals = b.metrics.totals ∧
      b.halt.metrics.inFlight = 0 := by
  have hstate : ∀ os b, Unfolds (Bridge.new profile) os b → Tallied os b :=
    fun os b hos => hos.tallied (orderly_new profile) (tallied_new profile)
  refine ⟨?_, ?_⟩
  · intro os b hos
    have a := hstate os b hos
    have l := (ledger_new profile).unfolds hos
    refine ⟨?_, a.dropped, a.totals, ?_, ?_, a.running, ?_, ?_⟩
    · have hlength := l.conserved.length_eq
      simp only [List.length_append, List.length_map, List.nil_append] at hlength
      have hsum := sum_tally os
      rw [show tally os = b.metrics.totals from funext fun v => (a.totals v).symm] at hsum
      omega
    · intro v hv
      rw [a.durations, if_neg hv, a.totals]
    · exact List.eq_nil_of_length_eq_zero (a.durations .rejected)
    · rw [a.running]
      exact Int.natCast_nonneg _
    · intro hnone
      rw [a.running, hnone]
      rfl
  · intro h
    obtain ⟨os, hos, harrivals⟩ := leads_run (orderly_new profile) h
    have hrejected := rejected_run (orderly_new profile) (tallied_new profile) h
    dsimp only
    generalize (Bridge.new profile).run h = b at hos hrejected
    have ho := hos.orderly (orderly_new profile)
    refine ⟨⟨os, hos, harrivals⟩, hrejected.trans (Nat.zero_add _), ?_, tasks_halt b,
      discards_totals _ _, ?_⟩
    · intro t ht result hbegun hend v
      rw [advance_finish (task?_of_mem ho.distinct ht) hbegun hend, finish_metrics]
      exact b.metrics.totals_count _ v
    · obtain ⟨os', hos', -⟩ := leads_halt ho
      have a := hstate _ _ (hos.trans hos')
      rw [a.running, tasks_halt]
      rfl

/-- A server with one route, a request for it that has begun, and one that is no frame. -/
def halfway : List Move := [
  .addRouter,
  .addRoute 0 "/" ⟨[], fun request => .done (.ok ⟨200, request.body⟩)⟩,
  .addServer 0 80 {},
  .start 0,
  .handOver (some 0) true true false 0 (some (Frame.encodeRequest ⟨.get, "/", []⟩)),
  .handOver (some 0) true true false 0 (some [9]),
  .advance 0]

theorem halfway_is_counted :
    let b := (Bridge.new .memory).run halfway
    b.metrics.totals .rejected = 1 ∧ b.metrics.inFlight = 1 ∧
      (b.advance 0).metrics.totals .completed = 1 ∧
      b.halt.metrics.totals .completed = 0 ∧ b.halt.metrics.inFlight = 0 := by
  obtain ⟨-, hruns⟩ := metrics_are_conserved .memory
  obtain ⟨-, hrejected, hends, -, hhalted, hgauge⟩ := hruns halfway
  refine ⟨hrejected.trans ?_, ?_, ?_, ?_, hgauge⟩
  · decide +kernel
  · decide +kernel
  · exact hends _ (List.mem_of_getElem? (i := 0) rfl) _ rfl rfl .completed
  · exact congrFun hhalted .completed

end Bridge
end RequestBridge
