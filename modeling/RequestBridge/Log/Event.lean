/-! Log events as values: a level, a message and named fields. -/
namespace RequestBridge.Log

inductive Level where
  | error
  | warn
  | info
  | debug
  | trace
deriving DecidableEq, Repr

def Level.name : Level → String
  | .error => "ERROR"
  | .warn => "WARN"
  | .info => "INFO"
  | .debug => "DEBUG"
  | .trace => "TRACE"

inductive Value where
  | text (s : String)
  | number (n : Nat)
deriving DecidableEq, Repr

structure Event where
  level : Level
  message : String
  fields : List (String × Value)
deriving DecidableEq, Repr

end RequestBridge.Log
