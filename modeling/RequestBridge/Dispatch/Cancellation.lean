import RequestBridge.Engine.View
import RequestBridge.Failure

/-! Whether the peer of a request still waits.

A handle holds the flag of a request, and cancellation tokens are views of a handle. The
flag lives as long as any of them does. -/
namespace RequestBridge.Engine

/-- Fails if the peer has given up. -/
def check (e : Engine) (flag : Option Address) : Except Failure Unit :=
  if e.isCancelled flag then .error .cancelled else .ok ()

def describeHandle (flag : Option Address) : String :=
  Quoted.openRecord "CancellationHandle"
    [("context", Quoted.option (flag.map describeAddress))]

def describeToken (e : Engine) (flag : Option Address) : String :=
  Quoted.record "CancellationToken" [("cancelled", Quoted.bool (e.isCancelled flag))]

end RequestBridge.Engine
