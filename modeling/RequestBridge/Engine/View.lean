import RequestBridge.Engine.Basic
import RequestBridge.Path
import RequestBridge.Text.Quoted

/-! What can be seen of an engine from its journal. -/
namespace RequestBridge

/-- The one action that ends a request. -/
inductive Terminal where
  | completed (context : Address) (frame : Bytes)
  | released (context : Address)
deriving DecidableEq, Repr

def Terminal.context : Terminal → Address
  | .completed context _ => context
  | .released context => context

def Call.terminal? : Call → Option Terminal
  | .completed context frame => some (.completed context frame)
  | .released context => some (.released context)
  | _ => none

namespace Engine

/-- All terminal actions so far, in order. -/
def terminals (e : Engine) : List Terminal := e.journal.reverse.filterMap Call.terminal?

/-- The first terminal action on a context. -/
def terminalOf? (e : Engine) (context : Address) : Option Terminal :=
  e.terminals.find? (·.context == context)

def terminalCount (e : Engine) (context : Address) : Nat :=
  e.terminals.countP (·.context == context)

/-- The contexts of the requests that have not ended, in the order of their addresses. -/
def unterminated (e : Engine) : List Address :=
  let ended := e.terminals.map Terminal.context
  e.issued.reverse.filter (!ended.contains ·)

def flagFreedCount (e : Engine) (flag : Address) : Nat :=
  e.journal.countP (· == .flagFreed flag)

/-- Whether any server runs. -/
def isServing (e : Engine) : Bool := !e.servers.isEmpty

def ports (e : Engine) : List UInt16 := e.servers.map (·.2)

/-- All accepted routes, in order. -/
def routes (e : Engine) : List KnownRoute := e.known.reverse

/-- The first route whose pattern is the normal form of a path. -/
def resolve (e : Engine) (method : Method) (path : String) : Option UInt16 :=
  let pattern := Path.join "" path
  (e.routes.find? fun r => r.method == method && r.pattern == pattern).map (·.route)

/-- The accepted routes of one table, in order. -/
def routesOf (e : Engine) (table : Address) : List KnownRoute :=
  e.routes.filter (·.table == table)

/-- An address in descriptions. -/
def describeAddress (address : Address) : String := s!"ForeignPtr(0x{Quoted.hex address})"

def describe (e : Engine) : String :=
  Quoted.openRecord "MockEngine" [
    ("routes", toString e.known.length),
    ("terminals", toString e.terminals.length),
    ("attached", Quoted.bool e.attached.isSome)]

end Engine
end RequestBridge
