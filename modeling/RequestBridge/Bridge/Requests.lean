import RequestBridge.Bridge.Basic
import RequestBridge.Frame.Request

/-! Requests that the engine hands over.

A request is rejected at once or becomes a task; whichever it is, it ends in one
terminal action on its context. -/
namespace RequestBridge

/-- A request as it is handed over: the number of its route, its bytes unless there are
none, the context to answer through, and the flag of its peer. -/
structure Inbound where
  route : UInt16
  frame : Option Bytes
  context : Option Address
  flag : Option Address
deriving DecidableEq, Repr

/-- What a server reads requests with. -/
structure Dispatcher where
  registry : Registry
  limits : Frame.Limits

def Dispatcher.describe (d : Dispatcher) : String :=
  Quoted.openRecord "Dispatcher" [
    ("registry", d.registry.describe),
    ("codec", Quoted.record "FrameCodec" [
      ("limits", Quoted.record "FrameLimits" [("max_frame_len", toString d.limits.maxLength)])])]

namespace Bridge

/-- The dispatcher of a server, with the routes that its router has at present. -/
def dispatcher? (b : Bridge) (s : ServerId) : Option Dispatcher := do
  let server ← b.servers[s]?
  let mounted ← b.routers[server.router]?
  return ⟨mounted.router.registry, server.limits⟩

/-- Answers a request for which no chain runs. -/
def reject (b : Bridge) (call : Inbound) (r : Rejection) : Bridge :=
  let (_, delivered) := (CompletionToken.mk call.context).complete b.engine r.response call.flag
  { b with
    engine := delivered.engine.letGo call.flag b.flags
    metrics := b.metrics.recordRejected }.say
    (routeEvent .warn "dispatch rejected" call.route (some r.message) :: delivered.events)

/-- The end of a task whose chain has not come to its end: its request is let go. -/
def discard (b : Bridge) (t : Task) : Bridge :=
  let (engine, events) := (CompletionToken.mk t.context).drop b.engine
  let b := { b with tasks := b.tasks.filter (·.id != t.id) }
  { b with
    engine := engine.letGo t.flag b.flags
    metrics := if t.begun then b.metrics.leave else b.metrics }.say events

/-- A task for a request. Where tasks run no more it is discarded at once. -/
def spawn (b : Bridge) (call : Inbound) (act : Act Outcome) : Bridge :=
  let task : Task :=
    { id := b.nextTask, route := call.route, context := call.context, flag := call.flag, act }
  let b := { b with nextTask := b.nextTask + 1, tasks := b.tasks ++ [task] }
  if b.halted then b.discard task else b

/-- Hands a request to a dispatcher. -/
def dispatch (b : Bridge) (d : Dispatcher) (call : Inbound) : Bridge :=
  match call.frame with
  | none => b.reject call .badFrame
  | some [] => b.reject call .badFrame
  | some bytes =>
    match Frame.decodeRequest d.limits bytes with
    | .error e =>
      (b.say [routeEvent .debug "request frame rejected" call.route (some e.message)]).reject call
        .undecodable
    | .ok request =>
      match d.registry.route? call.route with
      | none => b.reject call .missingHandler
      | some route => b.spawn call ((d.registry.pipeline route).start request)

/-- Hands a request to the server that was seen attached, if there was one. -/
def receive (b : Bridge) (attached : Option ServerId) (call : Inbound) : Bridge :=
  match attached.bind b.dispatcher? with
  | some d => b.dispatch d call
  | none => b.reject call .noDispatcher

/-- Hands over a request with a fresh context and a fresh flag, or without one of them. -/
def handOver (b : Bridge) (attached : Option ServerId) (withContext withFlag cancelled : Bool)
    (route : UInt16) (frame : Option Bytes) : Bridge × Inbound :=
  let (engine, context, flag) := b.engine.equip withContext withFlag cancelled
  let call : Inbound := { route, frame, context, flag }
  (receive { b with engine } attached call, call)

end Bridge
end RequestBridge
