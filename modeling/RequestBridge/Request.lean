import RequestBridge.Method
import RequestBridge.Text.Quoted

/-! What a chain is asked: a method, a path and a body.

Whether the peer still waits is not part of the request but a question that the
chain may put at any time, so two requests with the same fields are the same. -/
namespace RequestBridge

structure Request where
  method : Method
  path : String
  body : Bytes
deriving DecidableEq, Repr

namespace Request

/-- The request as a description, given the present answer of its cancellation token. -/
def describe (r : Request) (cancelled : Bool) : String :=
  Quoted.record "Request" [
    ("method", r.method.label),
    ("path", Quoted.text r.path),
    ("body", Quoted.bytes r.body),
    ("cancellation", Quoted.record "CancellationToken" [("cancelled", Quoted.bool cancelled)])]

end Request
end RequestBridge
