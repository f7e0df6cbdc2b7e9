import RequestBridge.Proofs.Bridge.Endings
import RequestBridge.Proofs.Bridge.Flags

/-! What a dispatcher decides on a request.

There are four ends to a dispatch: the request is refused because there are no bytes, because the
bytes are no frame, or because its route has no handler, in this order, or else it becomes one
task. A request that is refused has its terminal action at once and no chain of its own
(`Refuses`). One that becomes a task is as untouched when the dispatch returns as when it came
(`Starts`), unless tasks run no more, for then it is let go at once (`Drops`). -/
namespace RequestBridge

theorem Engine.flagFreedCount_noted (e : Engine) (d : Departure) (others : List Address)
    (f : Address) :
    (e.noted (d.calls others)).flagFreedCount f =
      e.flagFreedCount f + if d.flag = some f ∧ f ∉ others then 1 else 0 := by
  rw [flagFreedCount, noted, List.countP_append, Nat.add_comm]
  exact congrArg (e.flagFreedCount f + ·) (Engine.count_calls d others f)

theorem Rejection.fitted_response (reason : Rejection) :
    reason.response.fitted.1 = ⟨500, Utf8.encode reason.message⟩ := by
  refine Response.fitted_eq ?_
  cases reason <;> decide +kernel

namespace Bridge
open Occurrence

/-- Both contexts of a request are consumed, and nothing runs for it. -/
structure Consumes (b : Bridge) (call : Inbound) (terminal : Address → Terminal) (b' : Bridge) :
    Prop where
  terminals : b'.engine.terminals = b.engine.terminals ++ (call.context.map terminal).toList
  freed : ∀ f, b'.engine.flagFreedCount f =
    b.engine.flagFreedCount f + if call.flag = some f then 1 else 0
  tasks : b'.tasks = b.tasks
  kept : b'.kept = b.kept
  marks : b'.marks = b.marks

/-- A request is answered with an error, or let go if its peer is gone, and it is counted as
rejected and as nothing else. -/
structure Refuses (b : Bridge) (call : Inbound) (text : String) (b' : Bridge) : Prop extends
    Consumes b call (fun c =>
      if b.engine.isCancelled call.flag then .released c
      else .completed c (Frame.encodeResponse ⟨500, Utf8.encode text⟩)) b' where
  nextTask : b'.nextTask = b.nextTask
  totals : ∀ v, b'.metrics.totals v = b.metrics.totals v + if v = .rejected then 1 else 0
  durations : b'.metrics.durations = b.metrics.durations
  inFlight : b'.metrics.inFlight = b.metrics.inFlight

/-- A request has become one task, of which no step has been taken, and nothing else has
happened. -/
structure Starts (b : Bridge) (call : Inbound) (chain : Act Outcome) (b' : Bridge) : Prop where
  tasks : b'.tasks = b.tasks ++ [{
    id := b.nextTask, route := call.route, context := call.context, flag := call.flag, act := chain }]
  nextTask : b'.nextTask = b.nextTask + 1
  engine : b'.engine = b.engine
  kept : b'.kept = b.kept
  marks : b'.marks = b.marks
  metrics : b'.metrics = b.metrics

/-- A request has become one task, which has been dropped before it took a step. -/
structure Drops (b : Bridge) (call : Inbound) (b' : Bridge) : Prop extends
    Consumes b call .released b' where
  nextTask : b'.nextTask = b.nextTask + 1
  metrics : b'.metrics = b.metrics

variable {b : Bridge} {call : Inbound}

theorem refuses_reject (hflag : ∀ f, call.flag = some f → f ∉ b.flags) (events : List Log.Event)
    (reason : Rejection) : b.Refuses call reason.message ((b.say events).reject call reason) where
  terminals := by
    rw [reject_engine, Engine.terminals_noted, Departure.terminals_calls]
    refine congrArg (fun terminal : Address → Terminal =>
      b.engine.terminals ++ (call.context.map terminal).toList) (funext fun c => ?_)
    rw [← reason.fitted_response]
    rfl
  freed f := by
    rw [reject_engine, Engine.flagFreedCount_noted]
    exact congrArg (b.engine.flagFreedCount f + ·)
      (if_congr (and_iff_left_of_imp (hflag f)) rfl rfl)
  tasks := rfl
  kept := rfl
  marks := rfl
  nextTask := rfl
  totals v := by
    show (if v = .rejected then b.metrics.totals v + 1 else b.metrics.totals v) = _
    split <;> rfl
  durations := rfl
  inFlight := rfl

theorem starts_enqueue (b : Bridge) (call : Inbound) (chain : Act Outcome) :
    b.Starts call chain (b.enqueue call chain) := ⟨rfl, rfl, rfl, rfl, rfl, rfl⟩

theorem drops_discard (hbounded : ∀ t ∈ b.tasks, t.id < b.nextTask)
    (hflag : ∀ f, call.flag = some f → f ∉ b.flags) (chain : Act Outcome) :
    b.Drops call ((b.enqueue call chain).discard (b.newTask call chain)) := by
  have htasks : Task.without (b.tasks ++ [b.newTask call chain]) b.nextTask = b.tasks := by
    have hothers : Task.without b.tasks b.nextTask = b.tasks :=
      Task.without_eq_self fun t ht => Nat.ne_of_lt (hbounded t ht)
    unfold Task.without at hothers ⊢
    rw [List.filter_append, hothers, List.filter_cons_of_neg (by simp [newTask])]
    exact List.append_nil _
  have hothers : (b.enqueue call chain).flagsWithout (b.newTask call chain) = b.flags :=
    congrArg (fun ts : List Task => b.kept ++ ts.filterMap (·.flag)) htasks
  refine ⟨⟨?_, ?_, htasks, rfl, rfl⟩, rfl, rfl⟩
  · rw [discard_engine, Engine.terminals_noted, Departure.terminals_calls]
    rfl
  · intro f
    rw [discard_engine, Engine.flagFreedCount_noted, hothers]
    exact congrArg (b.engine.flagFreedCount f + ·)
      (if_congr (and_iff_left_of_imp (hflag f)) rfl rfl)

/-! ### The order of the checks -/

theorem dispatch_nothing (d : Dispatcher) (h : call.frame.getD [] = []) :
    b.dispatch d call = b.reject call .badFrame := by
  obtain ⟨route, frame, context, flag⟩ := call
  rcases frame with _ | _ | ⟨byte, rest⟩
  · rfl
  · rfl
  · cases h

/-- Where there are bytes, it is the reading of them that decides. -/
theorem dispatch_bytes (d : Dispatcher) (h : call.frame.getD [] ≠ []) :
    b.dispatch d call =
      match Frame.decodeRequest d.limits (call.frame.getD []) with
      | .error e =>
        (b.say [routeEvent .debug "request frame rejected" call.route (some e.message)]).reject call
          .undecodable
      | .ok request =>
        match d.registry.routes[call.route.toNat]? with
        | none => b.reject call .missingHandler
        | some route => b.spawn call ((d.registry.pipeline route).start request) := by
  obtain ⟨id, frame, context, flag⟩ := call
  rcases frame with _ | _ | ⟨byte, rest⟩
  · exact absurd rfl h
  · exact absurd rfl h
  · unfold dispatch
    simp only [Registry.route?_eq]
    rfl

/-- The flag of a request that comes next is not held yet. -/
theorem flag_not_held {profile : Profile} {os : List Occurrence}
    (h : Unfolds (Bridge.new profile) os b) {withContext withFlag cancelled : Bool} {e : Engine}
    {context flag : Option Address}
    (hequip : b.engine.equip withContext withFlag cancelled = (e, context, flag)) :
    ∀ f, flag = some f → f ∉ b.flags := by
  obtain ⟨l, a, _⟩ := accounted_of_unfolds h
  intro f hf hheld
  have hlow := ((Engine.equipped_of_equip hequip).flag f hf).1
  have hhigh := (l.flags.within f (a.held f hheld)).2
  exact Nat.not_lt_of_le hlow hhigh

/-- A dispatch comes to exactly one of four ends, at any time, with any dispatcher, whatever the
request: it is refused where there are no bytes, else where the bytes are no frame, else where
the router has no such route, and else it becomes one task with its chain, which is dropped at
once where tasks run no more. What a request is refused for does not depend on what would be
asked only later, nor on any stage or handler. -/
theorem dispatch_decides (profile : Profile) (h : List Move)
    (withContext withFlag cancelled : Bool) (d : Dispatcher) (route : UInt16)
    (frame : Option Bytes) :
    let before := (Bridge.new profile).run h
    let (engine, context, flag) := before.engine.equip withContext withFlag cancelled
    let b := { before with engine }
    let call : Inbound := ⟨route, frame, context, flag⟩
    let bytes := frame.getD []
    (bytes = [] → b.Refuses call "bad request frame" (b.dispatch d call) ∧
      ∀ d', b.dispatch d' call = b.dispatch d call) ∧
    (bytes ≠ [] → ∀ e, Frame.decodeRequest d.limits bytes = .error e →
      b.Refuses call "cannot decode request" (b.dispatch d call) ∧
      ∀ d', d'.limits = d.limits → b.dispatch d' call = b.dispatch d call) ∧
    (bytes ≠ [] → ∀ request, Frame.decodeRequest d.limits bytes = .ok request →
      (d.registry.routes.length ≤ route.toNat →
        b.Refuses call "missing handler" (b.dispatch d call) ∧
        ∀ d', d'.limits = d.limits → d'.registry.routes.length ≤ route.toNat →
          b.dispatch d' call = b.dispatch d call) ∧
      ∀ r, d.registry.routes[route.toNat]? = some r →
        let chain := (Pipeline.mk (d.registry.globals ++ r.stages) r.handler).start request
        (b.halted = false → b.Starts call chain (b.dispatch d call)) ∧
        (b.halted = true → b.Drops call (b.dispatch d call))) := by
  obtain ⟨os, hos, -⟩ := leads_run (orderly_new profile) h
  have hbounded := (hos.orderly (orderly_new profile)).bounded
  dsimp only
  generalize (Bridge.new profile).run h = before at hos hbounded ⊢
  obtain ⟨⟨engine, context, flag⟩, hequip⟩ :
      ∃ equipped, before.engine.equip withContext withFlag cancelled = equipped := ⟨_, rfl⟩
  rw [hequip]
  dsimp only
  have hflag : ∀ f, flag = some f → f ∉ { before with engine }.flags := flag_not_held hos hequip
  refine ⟨?_, ?_, ?_⟩
  · intro hnothing
    refine ⟨?_, fun d' => ?_⟩
    · rw [dispatch_nothing d hnothing]
      exact refuses_reject hflag [] .badFrame
    · rw [dispatch_nothing d hnothing, dispatch_nothing d' hnothing]
  · intro hbytes e hdecode
    refine ⟨?_, fun d' hlimits => ?_⟩
    · rw [dispatch_bytes d hbytes, hdecode]
      exact refuses_reject hflag _ .undecodable
    · rw [dispatch_bytes d hbytes, dispatch_bytes d' hbytes, hlimits, hdecode]
  · intro hbytes request hdecode
    refine ⟨fun hmissing => ⟨?_, fun d' hlimits hmissing' => ?_⟩, fun r hr => ?_⟩
    · rw [dispatch_bytes d hbytes, hdecode, List.getElem?_eq_none hmissing]
      exact refuses_reject hflag [] .missingHandler
    · rw [dispatch_bytes d hbytes, dispatch_bytes d' hbytes, hlimits, hdecode,
        List.getElem?_eq_none hmissing, List.getElem?_eq_none hmissing']
    · have hspawn := @dispatch_bytes { before with engine } ⟨route, frame, context, flag⟩ d hbytes
      rw [hdecode, hr] at hspawn
      dsimp only at hspawn
      rw [hspawn, spawn_eq]
      refine ⟨fun hruns => ?_, fun hhalted => ?_⟩
      · rw [if_neg (Bool.eq_false_iff.mp hruns)]
        exact starts_enqueue _ _ _
      · rw [if_pos hhalted]
        exact drops_discard (b := { before with engine }) hbounded hflag _

/-- Bytes that are no frame are refused as such also where the route is not there, and a frame for
the one route that is there becomes a task. -/
theorem dispatch_decides_in_order :
    let d : Dispatcher := ⟨Registry.push {} ⟨[], fun request => .done (.ok ⟨200, request.body⟩)⟩, {}⟩
    let frame := Frame.encodeRequest ⟨.get, "/", [5]⟩
    let before := (Bridge.new .memory).run []
    let (engine, context, flag) := before.engine.equip true true false
    let b := { before with engine }
    let unreadable : Inbound := ⟨7, some [9], context, flag⟩
    let call : Inbound := ⟨0, some frame, context, flag⟩
    b.Refuses unreadable "cannot decode request" (b.dispatch d unreadable) ∧
      b.Starts call (.done (.ok ⟨200, [5]⟩)) (b.dispatch d call) := by
  intro d frame
  obtain ⟨-, hunreadable, -⟩ := dispatch_decides .memory [] true true false d 7 (some [9])
  obtain ⟨-, -, hcall⟩ := dispatch_decides .memory [] true true false d 0 (some frame)
  have hread : Frame.decodeRequest d.limits frame = .ok ⟨.get, "/", [5]⟩ := by decide +kernel
  refine ⟨(hunreadable (by decide) _ rfl).1, ?_⟩
  exact ((hcall (by decide +kernel) _ hread).2 _ rfl).1 rfl

/-- Where tasks run no more, a whole request for a route that is there is let go at once: no task
is left when the dispatch returns, and its terminal action has been taken. -/
theorem dispatch_ends_where_tasks_are_dropped :
    let before := (Bridge.new .memory).run [.halt]
    let (engine, context, flag) := before.engine.equip true true false
    let b := { before with engine }
    let d : Dispatcher := ⟨Registry.push {} ⟨[], fun _ => .done (.ok ⟨200, []⟩)⟩, {}⟩
    let frame := Frame.encodeRequest ⟨.get, "/", []⟩
    let b' := b.dispatch d ⟨0, some frame, context, flag⟩
    Frame.decodeRequest d.limits frame = .ok ⟨.get, "/", []⟩ ∧ d.registry.routes.length = 1 ∧
      ¬ (b'.tasks.length = b.tasks.length + 1 ∧ b'.engine.terminals = b.engine.terminals) ∧
      b'.tasks.length = 0 ∧ b'.engine.terminals = [.released 16] := by
  refine ⟨?_, ?_, ?_, ?_, ?_⟩ <;> decide +kernel

end Bridge
end RequestBridge
