import RequestBridge.Chain.Pipeline
import RequestBridge.Metrics.Basic

/-! What a finished chain, or a request that never reached one, is answered with. -/
namespace RequestBridge

/-- Why a request is answered before a chain runs. -/
inductive Rejection where
  /-- There are no bytes to read. -/
  | badFrame
  | undecodable
  | missingHandler
  /-- No server takes requests. -/
  | noDispatcher
deriving DecidableEq, Repr

def Rejection.message : Rejection → String
  | .badFrame => "bad request frame"
  | .undecodable => "cannot decode request"
  | .missingHandler => "missing handler"
  | .noDispatcher => "no dispatcher attached"

def Rejection.response (r : Rejection) : Response := .serverError r.message

/-- An event about a request, which names its route. -/
def routeEvent (level : Log.Level) (message : String) (route : UInt16) (error : Option String) :
    Log.Event where
  level
  message
  fields := ("route_id", .number route.toNat) ::
    (error.toList.map fun text => ("error", .text text))

/-- What the end of a chain comes to. -/
structure Settlement where
  response : Response
  verdict : Verdict
  events : List Log.Event

/-- A panic as a text. -/
def Payload.shown (p : Payload) : String := p.text?.getD "handler panicked"

/-- The settlement of a chain that came to a result or panicked. -/
def settle (route : UInt16) : Except Payload Outcome → Settlement
  | .ok (.ok response) => ⟨response, .completed, []⟩
  | .ok (.error .cancelled) =>
    ⟨.clientClosed, .cancelled, [routeEvent .debug "handler observed cancellation" route none]⟩
  | .ok (.error (.http response)) => ⟨response, .httpError, []⟩
  | .ok (.error (.other report)) =>
    ⟨(Failure.other report).response, .failed,
      [routeEvent .warn "handler failed" route (some report.brief)]⟩
  | .error payload =>
    ⟨Failure.unhandled payload.shown, .failed,
      [routeEvent .warn "handler panicked" route (some payload.shown)]⟩

end RequestBridge
