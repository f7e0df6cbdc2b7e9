import RequestBridge.Bridge.Servers
import RequestBridge.Bridge.Tasks
import RequestBridge.Client.Answer

/-! Requests through an engine in memory, from the side of a client. -/
namespace RequestBridge

namespace Client

/-- A request that is to be sent. -/
structure Outbound where
  path : String
  body : Bytes := []
  /-- The number of a route, in place of the one that the path leads to. -/
  route : Option UInt16 := none
  /-- Bytes to send in place of a frame. -/
  raw : Option Bytes := none
  /-- Whether the client has given up before the request is handed over. -/
  cancelled : Bool := false
deriving DecidableEq, Repr

def Outbound.frame (o : Outbound) : Bytes :=
  o.raw.getD (Frame.encodeRequest ⟨.get, o.path, o.body⟩)

/-- A request that has been handed over. -/
structure Pending where
  context : Address
  flag : Address
deriving DecidableEq, Repr

end Client

namespace Bridge

/-- Hands bytes over under the number of a route, with a context and a flag of their own. -/
def sendFrame (b : Bridge) (route : UInt16) (frame : Bytes) (cancelled : Bool) :
    Except Client.Error (Bridge × Client.Pending) :=
  match b.engine.attached with
  | none => .error .notRunning
  | some server =>
    let (engine, context) := b.engine.issue
    let (engine, flag) := engine.allocate
    let engine := if cancelled then engine.cancel flag else engine
    .ok (receive { b with engine } (some server) ⟨route, some frame, some context, some flag⟩,
      ⟨context, flag⟩)

/-- Hands a request over under the route that it names, or that its path leads to. -/
def sendRequest (b : Bridge) (o : Client.Outbound) :
    Except Client.Error (Bridge × Client.Pending) :=
  match o.route <|> b.engine.resolve .get o.path with
  | none => .error (.noRoute .get o.path)
  | some route => b.sendFrame route o.frame o.cancelled

/-- The answer to a request, if it has come within the time that a client waits. -/
def answer (b : Bridge) (millis : Nat) (context : Address) : Except Client.Error Client.Answer :=
  match b.engine.terminalOf? context with
  | none => .error (.timeout millis)
  | some (.released _) => .ok .released
  | some (.completed _ frame) =>
    ((Frame.decodeResponse frame).map Client.Answer.ofResponse).mapError .frame

/-- Sends a request and waits for its answer, while all tasks run. -/
def send (b : Bridge) (millis : Nat) (o : Client.Outbound) :
    Bridge × Except Client.Error Client.Answer :=
  match b.sendRequest o with
  | .error e => (b, .error e)
  | .ok (b, pending) =>
    let b := b.drive
    (b, b.answer millis pending.context)

end Bridge
end RequestBridge
