import RequestBridge.Bridge.Requests

/-! What is decided on a request before its chain runs, and what it is told after.

A request is refused for one reason or is admitted with a chain (`Dispatcher.admit`); what a
server does with it follows from that alone (`receive_eq`). A chain that has come to its end is
answered with one response (`Response.ofResult`). -/
namespace RequestBridge

/-- The response to the result of a chain. -/
def Response.ofResult : Except Payload Outcome → Response
  | .ok (.ok response) => response
  | .ok (.error (.http response)) => response
  | .ok (.error .cancelled) => ⟨499, []⟩
  | .ok (.error (.other report)) =>
    ⟨500, Utf8.encode
      ("Caught unhandled error: " ++ ": ".intercalate (report.contexts ++ [report.root]))⟩
  | .error (.text s) => ⟨500, Utf8.encode ("Caught unhandled error: " ++ s)⟩
  | .error .mute => ⟨500, Utf8.encode ("Caught unhandled error: " ++ "handler panicked")⟩

theorem settle_response (route : UInt16) (result : Except Payload Outcome) :
    (settle route result).response = .ofResult result := by
  rcases result with payload | failure | response
  · cases payload <;> rfl
  · cases failure <;> rfl
  · rfl

/-- The chain of a request, or the reason why none runs for it. -/
def Dispatcher.admit (d : Dispatcher) (call : Inbound) : Except Rejection (Act Outcome) :=
  match call.frame with
  | none => .error .badFrame
  | some [] => .error .badFrame
  | some bytes =>
    match Frame.decodeRequest d.limits bytes with
    | .error _ => .error .undecodable
    | .ok request =>
      match d.registry.route? call.route with
      | none => .error .missingHandler
      | some route => .ok ((d.registry.pipeline route).start request)

namespace Bridge

/-- What is decided on a request by the server that was seen attached, if there was one. -/
def admission (b : Bridge) (attached : Option ServerId) (call : Inbound) :
    Except Rejection (Act Outcome) :=
  match attached.bind b.dispatcher? with
  | some d => d.admit call
  | none => .error .noDispatcher

/-- A request that is refused is rejected at once, and one that is admitted becomes a task. -/
theorem receive_eq (b : Bridge) (attached : Option ServerId) (call : Inbound) :
    ∃ events, b.receive attached call =
      match b.admission attached call with
      | .error r => (b.say events).reject call r
      | .ok act => b.spawn call act := by
  unfold receive admission
  obtain ⟨id, frame, context, flag⟩ := call
  cases attached.bind b.dispatcher? with
  | none => exact ⟨[], rfl⟩
  | some d =>
    rcases frame with _ | _ | ⟨byte, rest⟩
    · exact ⟨[], rfl⟩
    · exact ⟨[], rfl⟩
    · dsimp only [dispatch, Dispatcher.admit]
      cases Frame.decodeRequest d.limits (byte :: rest) with
      | error e => exact ⟨_, rfl⟩
      | ok request =>
        dsimp only
        cases d.registry.route? id with
        | none => exact ⟨[], rfl⟩
        | some route => exact ⟨[], rfl⟩

theorem receive_of_admitted {b : Bridge} {e : Engine} {attached : Option ServerId} {call : Inbound}
    {act : Act Outcome} (h : b.admission attached call = .ok act) :
    receive { b with engine := e } attached call = spawn { b with engine := e } call act := by
  obtain ⟨events, hreceive⟩ := receive_eq { b with engine := e } attached call
  have hadmitted : admission { b with engine := e } attached call = .ok act := h
  rw [hreceive, hadmitted]

/-- The task of a request that is admitted next. -/
def newTask (b : Bridge) (call : Inbound) (act : Act Outcome) : Task where
  id := b.nextTask
  route := call.route
  context := call.context
  flag := call.flag
  act

/-- The bridge with one more task, behind all others. -/
def enqueue (b : Bridge) (call : Inbound) (act : Act Outcome) : Bridge :=
  { b with nextTask := b.nextTask + 1, tasks := b.tasks ++ [b.newTask call act] }

theorem spawn_eq (b : Bridge) (call : Inbound) (act : Act Outcome) :
    b.spawn call act =
      if b.halted then (b.enqueue call act).discard (b.newTask call act) else b.enqueue call act :=
  rfl

/-- The flags that anything refers to once a task is gone. -/
def flagsWithout (b : Bridge) (t : Task) : List Address :=
  b.kept ++ (b.tasks.filter (·.id != t.id)).filterMap (·.flag)

end Bridge

/-! ### Fresh addresses -/

namespace Engine

/-- The addresses that a request is equipped with are the next ones that the engine has. -/
theorem equip_eq (e : Engine) (withContext withFlag cancelled : Bool) :
    e.equip withContext withFlag cancelled =
      let context := if withContext then some e.next else none
      let middle := if withContext then e.next + e.profile.stride else e.next
      let flag := if withFlag then some middle else none
      ({ e with
          next := if withFlag then middle + e.profile.stride else middle
          issued := context.toList ++ e.issued
          cancelled := (if withFlag && cancelled then [middle] else []) ++ e.cancelled },
        context, flag) := by
  cases withContext <;> cases withFlag <;> cases cancelled <;> rfl

/-- An engine that has handed out a context and a flag, or only one of them, or neither. -/
structure Equipped (e e' : Engine) (context flag : Option Address) : Prop where
  journal : e'.journal = e.journal
  issued : e'.issued = context.toList ++ e.issued
  next : e.next ≤ e'.next
  context : ∀ c, context = some c → e.next ≤ c ∧ c < e'.next
  flag : ∀ f, flag = some f → e.next ≤ f ∧ f < e'.next
  cancelled : ∀ f, f ∈ e.cancelled → f ∈ e'.cancelled

theorem equipped_of_equip {e e' : Engine} {withContext withFlag cancelled : Bool}
    {context flag : Option Address}
    (h : e.equip withContext withFlag cancelled = (e', context, flag)) :
    e.Equipped e' context flag := by
  have hpos := e.profile.stride_pos
  rw [equip_eq] at h
  dsimp only at h
  obtain ⟨he, hcontext, hflag⟩ := Prod.mk.inj h |>.imp_right Prod.mk.inj
  subst he hcontext hflag
  refine ⟨rfl, rfl, ?_, ?_, ?_, ?_⟩
  · cases withContext <;> cases withFlag <;> simp [Nat.add_assoc]
  · intro c hc
    cases withContext with
    | false => cases hc
    | true =>
      cases hc
      cases withFlag <;> simp [Nat.add_assoc, hpos, Nat.add_pos_left hpos]
  · intro f hf
    cases withFlag with
    | false => cases hf
    | true =>
      cases hf
      cases withContext <;> simp [hpos]
  · intro f hf
    exact List.mem_append_right _ hf

end Engine
end RequestBridge
