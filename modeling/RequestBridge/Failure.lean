import RequestBridge.Response

/-! How a chain can fail, and what the peer is told then. -/
namespace RequestBridge

/-- An error text with the contexts that were put around it, the outermost first. -/
structure Report where
  contexts : List String
  root : String
deriving DecidableEq, Repr

namespace Report

def ofText (text : String) : Report := ⟨[], text⟩

/-- The report with one more context around it. -/
def within (r : Report) (context : String) : Report := { r with contexts := context :: r.contexts }

/-- The outermost text. -/
def brief (r : Report) : String := r.contexts.headD r.root

/-- All texts, from the outermost to the root. -/
def full (r : Report) : String := ": ".intercalate (r.contexts ++ [r.root])

end Report

inductive Failure where
  /-- A failure on purpose, which says what to answer. -/
  | http (response : Response)
  /-- The chain has seen that the peer is gone. -/
  | cancelled
  | other (report : Report)
deriving DecidableEq, Repr

namespace Failure

def message : Failure → String
  | .http response => s!"HTTP error {response.status}"
  | .cancelled => "request cancelled by peer"
  | .other report => report.brief

def isCancelled : Failure → Bool
  | .cancelled => true
  | _ => false

/-- The answer to a failure that nothing else is said of. -/
def unhandled (text : String) : Response :=
  .serverError ("Caught unhandled error: " ++ text)

def response : Failure → Response
  | .http response => response
  | .cancelled => .clientClosed
  | .other report => unhandled report.full

end Failure

/-- What a chain comes to when nothing panics. -/
abbrev Outcome := Except Failure Response

end RequestBridge
