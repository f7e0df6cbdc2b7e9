/-! The request methods of the wire format, each with a name and a one-byte code. -/
namespace RequestBridge

inductive Method where
  | get
deriving DecidableEq, Repr

namespace Method

def code : Method → UInt8
  | .get => 0

def ofCode? (code : UInt8) : Option Method :=
  if code = 0 then some .get else none

def name : Method → String
  | .get => "GET"

/-- The name in descriptions of values. -/
def label : Method → String
  | .get => "Get"

theorem ofCode?_eq_some_iff {c : UInt8} {m : Method} : ofCode? c = some m ↔ c = m.code := by
  cases m
  simp [ofCode?, code]

end Method
end RequestBridge
