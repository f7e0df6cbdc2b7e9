import RequestBridge.Log.Filter

/-! What is logged and how, and the set-up of logging. -/
namespace RequestBridge.Log

structure Settings where
  enabled : Bool := true
  /-- The filter of events. -/
  level : String := "info"
  jsonFormat : Bool := true
  spanEvents : Bool := false
  fileLineInfo : Bool := false
  threadIds : Bool := false
  includeTarget : Bool := true
deriving DecidableEq, Repr

def Settings.development : Settings where
  level := "debug"
  jsonFormat := false
  spanEvents := true
  fileLineInfo := true
  threadIds := true

def Settings.production : Settings := {}

inductive SetupError where
  | filter (e : FilterError)
  | subscriberTaken
deriving DecidableEq, Repr

def SetupError.reason : SetupError → String
  | .filter e => "Invalid log level: " ++ e.message
  | .subscriberTaken => "a global default trace dispatcher has already been set"

def SetupError.message (e : SetupError) : String := "Failed to initialize logging: " ++ e.reason

/-- The text with which a set-up panics where it does not return the error. -/
def SetupError.panic? : SetupError → Option String
  | .filter (.cut b) => some b.message
  | _ => none

/-- Checks a filter on its own. -/
def checkFilter (filter : String) : Except SetupError Unit :=
  (Filter.check filter).mapError .filter

/-- The set-up of logging, in a process that may have it already. -/
def Settings.install (s : Settings) (taken : Bool) : Except SetupError Unit :=
  if !s.enabled then .ok ()
  else match checkFilter s.level with
    | .error e => .error e
    | .ok () => if taken then .error .subscriberTaken else .ok ()

end RequestBridge.Log
