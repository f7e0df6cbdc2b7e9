/-! What is counted of the requests: how many ended how, how long they took, and how
many run now. -/
namespace RequestBridge

/-- How a dispatched request ended. -/
inductive Verdict where
  /-- The chain gave a response. -/
  | completed
  /-- The chain failed on purpose. -/
  | httpError
  /-- The chain saw that the peer was gone. -/
  | cancelled
  /-- The chain failed otherwise, or panicked. -/
  | failed
  /-- No chain ran. -/
  | rejected
deriving DecidableEq, Repr

def Verdict.label : Verdict → String
  | .completed => "completed"
  | .httpError => "http_error"
  | .cancelled => "cancelled"
  | .failed => "failed"
  | .rejected => "rejected"

def Verdict.all : List Verdict := [.completed, .httpError, .cancelled, .failed, .rejected]

structure Metrics where
  totals : Verdict → Nat := fun _ => 0
  /-- The durations in microseconds, the latest first. -/
  durations : Verdict → List Nat := fun _ => []
  inFlight : Int := 0

namespace Metrics

def count (m : Metrics) (v : Verdict) : Metrics :=
  { m with totals := fun w => if w = v then m.totals w + 1 else m.totals w }

def observe (m : Metrics) (v : Verdict) (micros : Nat) : Metrics :=
  { m with durations := fun w => if w = v then micros :: m.durations w else m.durations w }

/-- A request that ran has ended. -/
def recordDispatch (m : Metrics) (v : Verdict) (micros : Nat) : Metrics :=
  (m.count v).observe v micros

/-- A request was answered before a chain ran. It has no duration. -/
def recordRejected (m : Metrics) : Metrics := m.count .rejected

/-- A chain begins to run. -/
def enter (m : Metrics) : Metrics := { m with inFlight := m.inFlight + 1 }

/-- A chain that had begun runs no more. -/
def leave (m : Metrics) : Metrics := { m with inFlight := m.inFlight - 1 }

end Metrics
end RequestBridge
