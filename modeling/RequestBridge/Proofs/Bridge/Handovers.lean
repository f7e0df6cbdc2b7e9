import RequestBridge.Proofs.Bridge.Independence

/-! Requests with the dispatchers that they are handed to.

Which dispatcher a request goes to is settled when it is handed over, and with it what is decided
on the request (`Handover.admission`), whatever becomes of the server afterwards. Two handovers
are the same if the requests and what their dispatchers hold are, even if they are made to
different servers, at different engines and with different contexts (`Handover.Same`). -/
namespace RequestBridge

/-- A request, with the dispatcher that it is handed to, if a server is attached. -/
structure Handover where
  dispatcher : Option Dispatcher
  call : Inbound

/-- All that a dispatcher decides by: its limits, the stages of its router, and its routes. -/
def Dispatcher.holdings (d : Dispatcher) : Frame.Limits × List Middleware × List Route :=
  (d.limits, d.registry.globals, d.registry.routes)

namespace Handover

/-- The chain of the request, or the reason why none runs for it. -/
def admission (x : Handover) : Except Rejection (Act Outcome) :=
  match x.dispatcher with
  | some d => d.admit x.call
  | none => .error .noDispatcher

/-- The same bytes under the same number, handed to dispatchers that hold the same. -/
structure Same (x x' : Handover) : Prop where
  route : x'.call.route = x.call.route
  frame : x'.call.frame = x.call.frame
  dispatcher : x'.dispatcher.map Dispatcher.holdings = x.dispatcher.map Dispatcher.holdings

end Handover

theorem Dispatcher.admit_congr {d d' : Dispatcher} (h : d'.holdings = d.holdings)
    {call call' : Inbound} (hroute : call'.route = call.route) (hframe : call'.frame = call.frame) :
    d'.admit call' = d.admit call := by
  obtain ⟨hlimits, hholdings⟩ := Prod.mk.inj h
  obtain ⟨hglobals, hroutes⟩ := Prod.mk.inj hholdings
  unfold Dispatcher.admit Registry.pipeline
  simp only [Registry.route?_eq, hlimits, hglobals, hroutes, hroute, hframe]

theorem Handover.Same.admission {x x' : Handover} (h : x.Same x') :
    x'.admission = x.admission := by
  obtain ⟨dispatcher, call⟩ := x
  obtain ⟨dispatcher', call'⟩ := x'
  have hheld := h.dispatcher
  unfold Handover.admission
  cases dispatcher with
  | none =>
    cases dispatcher' with
    | none => rfl
    | some d' => cases hheld
  | some d =>
    cases dispatcher' with
    | none => cases hheld
    | some d' => exact Dispatcher.admit_congr (Option.some.inj hheld) h.route h.frame

namespace Bridge
open Occurrence

/-! ### The handovers of a history -/

/-- The server that a request is handed to in a move. -/
def receiver (b : Bridge) : Move → Option ServerId
  | .handOver attached _ _ _ _ _ => attached
  | _ => b.engine.attached

/-- The handover of a move, if there is one. -/
def handover? (b : Bridge) (m : Move) : Option Handover :=
  (b.inbound? m).map fun call => ⟨(b.receiver m).bind b.dispatcher?, call⟩

/-- The handovers of a history, in order. -/
def handovers (b : Bridge) : List Move → List Handover
  | [] => []
  | move :: rest => (b.handover? move).toList ++ (b.apply move).handovers rest

theorem call_handover? (b : Bridge) (m : Move) :
    (b.handover? m).toList.map Handover.call = (b.inbound? m).toList := by
  unfold handover?
  cases b.inbound? m <;> rfl

theorem calls_handovers (b : Bridge) (h : List Move) :
    (b.handovers h).map Handover.call = b.inbounds h := by
  induction h generalizing b with
  | nil => rfl
  | cons m rest ih =>
    rw [handovers, inbounds, List.map_append, call_handover?, ih]

/-- A request has been handed over with fresh addresses, and nothing else has happened. -/
def HandsOver (b : Bridge) (x : Handover) (b' : Bridge) : Prop :=
  ∃ attached withContext withFlag cancelled route frame,
    b' = (b.handOver attached withContext withFlag cancelled route frame).1 ∧
    x = ⟨attached.bind b.dispatcher?,
      (b.handOver attached withContext withFlag cancelled route frame).2⟩

theorem handsOver_sendFrame {b : Bridge} {route : UInt16} {frame : Bytes} {cancelled : Bool}
    {x : Handover} (h : (b.sent? route frame cancelled).map
      (Handover.mk (b.engine.attached.bind b.dispatcher?)) = some x) :
    b.HandsOver x (((b.sendFrame route frame cancelled).map (·.1)).toOption.getD b) := by
  rw [sendFrame_eq]
  unfold sent? at h
  cases hattached : b.engine.attached with
  | none =>
    rw [hattached] at h
    cases h
  | some s =>
    rw [hattached] at h
    cases h
    exact ⟨some s, true, true, cancelled, route, some frame, rfl, rfl⟩

theorem handsOver_apply {b : Bridge} {m : Move} {x : Handover} (h : b.handover? m = some x) :
    b.HandsOver x (b.apply m) := by
  cases m with
  | handOver attached withContext withFlag cancelled route frame =>
    cases h
    exact ⟨attached, withContext, withFlag, cancelled, route, frame, rfl, rfl⟩
  | sendFrame route frame cancelled => exact handsOver_sendFrame h
  | sendRequest o =>
    unfold handover? at h
    show b.HandsOver x (((b.sendRequest o).map (·.1)).toOption.getD b)
    unfold sendRequest
    dsimp only [inbound?] at h
    cases hroute : o.route <|> b.engine.resolve .get o.path with
    | none =>
      rw [hroute] at h
      cases h
    | some route =>
      rw [hroute] at h
      exact handsOver_sendFrame h
  | _ => cases h

/-- A request that is handed over where tasks run is rejected at once or becomes a task. -/
theorem HandsOver.admitted {b b' : Bridge} {x : Handover} (h : b.HandsOver x b')
    (hruns : b.halted = false) :
    b'.halted = false ∧
    (∀ c, x.call.context = some c → b.engine.next ≤ c) ∧
    match x.admission with
    | .error reason => b'.tasks = b.tasks ∧
        ∀ c, x.call.context = some c →
          (Ending.rejected reason).terminal c (b'.engine.isCancelled x.call.flag) ∈
            b'.engine.terminals
    | .ok chain => ∃ t : Task, b'.tasks = b.tasks ++ [t] ∧
        t.context = x.call.context ∧ t.act = chain := by
  obtain ⟨attached, withContext, withFlag, cancelled, route, frame, rfl, rfl⟩ := h
  obtain ⟨⟨e, context, flag⟩, hequip⟩ :
      ∃ equipped, b.engine.equip withContext withFlag cancelled = equipped := ⟨_, rfl⟩
  have hcall : (b.handOver attached withContext withFlag cancelled route frame).2 =
      ⟨route, frame, context, flag⟩ := by rw [call_handOver, hequip]
  obtain ⟨events, hreceive⟩ :=
    receive_eq { b with engine := e } attached ⟨route, frame, context, flag⟩
  have hadmission : { b with engine := e }.admission attached ⟨route, frame, context, flag⟩ =
    Handover.admission ⟨attached.bind b.dispatcher?, ⟨route, frame, context, flag⟩⟩ := rfl
  rw [handOver_eq, hcall, hequip]
  dsimp only
  rw [hreceive, hadmission]
  refine ⟨?_, fun c hc => ((Engine.equipped_of_equip hequip).context c hc).1, ?_⟩
  · split
    · exact hruns
    · rw [spawn_eq, if_neg (by rw [hruns]; nofun)]
      exact hruns
  · cases Handover.admission ⟨attached.bind b.dispatcher?, ⟨route, frame, context, flag⟩⟩ with
    | error reason =>
      refine ⟨rfl, fun c hc => ?_⟩
      obtain rfl : context = some c := hc
      rw [reject_terminals, reject_engine]
      exact List.mem_append_right _ (List.mem_singleton.mpr rfl)
    | ok chain =>
      dsimp only
      rw [spawn_eq, if_neg (by rw [hruns]; nofun)]
      exact ⟨_, rfl, rfl, rfl⟩

end Bridge
end RequestBridge
