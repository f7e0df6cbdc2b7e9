import RequestBridge.Frame.Basic
import RequestBridge.Log.Settings

/-! Configurations: what can be set, what holds by default, and what a usable
configuration keeps to. -/
namespace RequestBridge

/-- How log events are written. -/
inductive LogFormat where
  | json
  | pretty
deriving DecidableEq, Repr

def LogFormat.name : LogFormat → String
  | .json => "json"
  | .pretty => "pretty"

def LogFormat.all : List LogFormat := [.json, .pretty]

namespace Config

structure Server where
  port : UInt16 := 8080
deriving DecidableEq, Repr

/-- The threads that run chains. What is not set is left to the system. -/
structure Workers where
  threads : Option Nat := none
  threadName : String := "kiri-worker"
  stackSize : Option Nat := none
deriving DecidableEq, Repr

structure Frames where
  /-- The longest request frame that is accepted. -/
  maxLength : Nat := 16777216
deriving DecidableEq, Repr

structure Logging where
  enabled : Bool := true
  /-- The filter of events. -/
  level : String := "info"
  format : LogFormat := .json
  /-- Whether events say where in the program they arose. -/
  location : Bool := false
  threadIds : Bool := false
deriving DecidableEq, Repr

def Frames.limits (f : Frames) : Frame.Limits := ⟨f.maxLength⟩

def Logging.settings (l : Logging) : Log.Settings where
  enabled := l.enabled
  level := l.level
  jsonFormat := l.format == .json
  fileLineInfo := l.location
  threadIds := l.threadIds

end Config

structure Config where
  server : Config.Server := {}
  workers : Config.Workers := {}
  frames : Config.Frames := {}
  logging : Config.Logging := {}
deriving DecidableEq, Repr

namespace Config

def development : Config where
  logging := { level := "debug", format := .pretty, location := true, threadIds := true }

def production : Config := {}

/-- What makes a configuration unusable. -/
inductive Violation where
  | port
  | threads
  | threadName
  | frameLength
  | logLevel (e : Log.SetupError)
deriving DecidableEq, Repr

/-- The length of a request frame with an empty path and no body. -/
def leastFrame : Nat := 9

namespace Violation

/-- The setting at fault. -/
def field : Violation → String
  | .port => "server.port"
  | .threads => "runtime.worker_threads"
  | .threadName => "runtime.thread_name"
  | .frameLength => "frame.max_frame_len"
  | .logLevel _ => "logging.level"

def reason : Violation → String
  | .port => "must be between 1 and 65535"
  | .threads => "must be at least 1"
  | .threadName => "must not be empty"
  | .frameLength => s!"must be at least {leastFrame} bytes"
  | .logLevel e => e.message

def message (v : Violation) : String :=
  s!"invalid configuration value for {v.field}: {v.reason}"

/-- The text with which a check panics where it does not return the violation. -/
def panic? : Violation → Option String
  | .logLevel e => e.panic?
  | _ => none

end Violation

/-- Checks a configuration; the first violation in the order of the settings counts. The
filter of log events matters only if there is a log. -/
def check (c : Config) : Except Violation Unit := do
  if c.server.port = 0 then throw .port
  if c.workers.threads = some 0 then throw .threads
  if c.workers.threadName.isEmpty then throw .threadName
  if c.frames.maxLength < leastFrame then throw .frameLength
  if c.logging.enabled then (Log.checkFilter c.logging.level).mapError .logLevel

end Config
end RequestBridge
