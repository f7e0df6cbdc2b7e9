import RequestBridge.Dispatch.Cancellation
import RequestBridge.Dispatch.Completion

/-! Completion tokens, cancellation handles and their views outside of any task.

Each of them is used and dropped by itself. A flag is freed when its handle and all views
of it are gone. -/
namespace RequestBridge

/-- A cancellation handle. -/
structure Handle where
  /-- The address that was allocated for it. -/
  address : Address
  /-- The flag that it holds, if it was given the address. -/
  flag : Option Address
  dropped : Bool := false
deriving DecidableEq, Repr

/-- A view of a handle. -/
structure View where
  flag : Option Address
  dropped : Bool := false
deriving DecidableEq, Repr

structure Desk where
  engine : Engine
  tokens : List (Option CompletionToken) := []
  handles : List Handle := []
  views : List View := []

namespace Desk

/-- The flags that handles and views refer to. -/
def flags (d : Desk) : List Address :=
  (d.handles.filter (!·.dropped)).filterMap (·.flag) ++
    (d.views.filter (!·.dropped)).filterMap (·.flag)

/-- A new completion token, with a fresh context or with none. -/
def addToken (d : Desk) (empty : Bool) : Desk × Address :=
  let (engine, context) := d.engine.allocate
  let token : CompletionToken := ⟨if empty then none else some context⟩
  ({ d with engine, tokens := d.tokens ++ [some token] }, context)

/-- A new cancellation handle, with a fresh flag or with none. -/
def addHandle (d : Desk) (empty : Bool) : Desk × Address :=
  let (engine, address) := d.engine.allocate
  let handle : Handle := { address, flag := if empty then none else some address }
  ({ d with engine, handles := d.handles ++ [handle] }, address)

def token? (d : Desk) (t : Nat) : Option CompletionToken := d.tokens[t]?.join

def flagOf (d : Desk) (c : Nat) : Option Address := d.handles[c]?.bind (·.flag)

/-- The peer behind a handle gives up. -/
def cancel (d : Desk) (c : Nat) : Desk :=
  match d.handles[c]? with
  | some handle => { d with engine := d.engine.cancel handle.address }
  | none => d

/-- Answers through a token, with the flag of a handle. -/
def complete (d : Desk) (t c : Nat) (r : Response) : Desk × Delivery × List Log.Event :=
  match d.token? t with
  | none => (d, .alreadyConsumed, [])
  | some token =>
    let (token, delivered) := token.complete d.engine r (d.flagOf c)
    ({ d with engine := delivered.engine, tokens := d.tokens.set t (some token) },
      delivered.delivery, delivered.events)

/-- Answers through a token several times. -/
def completeMany (d : Desk) (t c : Nat) (r : Response) :
    Nat → Desk × List Delivery × List Log.Event
  | 0 => (d, [], [])
  | n + 1 =>
    let (d, delivery, events) := d.complete t c r
    let (d, more, later) := d.completeMany t c r n
    (d, delivery :: more, events ++ later)

def dropToken (d : Desk) (t : Nat) : Desk × List Log.Event :=
  match d.token? t with
  | none => (d, [])
  | some token =>
    let (engine, events) := token.drop d.engine
    ({ d with engine, tokens := d.tokens.set t none }, events)

def dropHandle (d : Desk) (c : Nat) : Desk :=
  match d.handles[c]? with
  | none => d
  | some handle =>
    if handle.dropped then d
    else
      let d := { d with handles := d.handles.set c { handle with dropped := true } }
      { d with engine := d.engine.letGo handle.flag d.flags }

/-- A new view of a flag. -/
def addView (d : Desk) (flag : Option Address) : Desk := { d with views := d.views ++ [{ flag }] }

def view? (d : Desk) (v : Nat) : Option View := (d.views[v]?).filter (!·.dropped)

def dropView (d : Desk) (v : Nat) : Desk :=
  match d.view? v with
  | none => d
  | some view =>
    let d := { d with views := d.views.set v { view with dropped := true } }
    { d with engine := d.engine.letGo view.flag d.flags }

def describeTokens (d : Desk) : String :=
  Quoted.list ((d.tokens.filterMap id).map CompletionToken.describe)

def describeHandles (d : Desk) : String :=
  Quoted.list ((d.handles.filter (!·.dropped)).map fun h => Engine.describeHandle h.flag)

def describeViews (d : Desk) : String :=
  Quoted.list ((d.views.filter (!·.dropped)).map fun v => d.engine.describeToken v.flag)

end Desk
end RequestBridge
