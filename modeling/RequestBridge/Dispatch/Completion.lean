import RequestBridge.Engine.Basic
import RequestBridge.Frame.Response
import RequestBridge.Log.Event

/-! The one answer to a request.

A completion token holds the context through which a request is answered. Whoever takes
the context out of the token decides what becomes of the request; all that come later
find the token empty. A token that is dropped with its context still inside lets the
request go. -/
namespace RequestBridge

/-- What became of an attempt to answer. -/
inductive Delivery where
  /-- A response frame went out. -/
  | sent
  /-- The peer had given up, and the request was let go. -/
  | released
  | alreadyConsumed
deriving DecidableEq, Repr

def Delivery.name : Delivery → String
  | .sent => "Sent"
  | .released => "Released"
  | .alreadyConsumed => "AlreadyConsumed"

/-- What an attempt to answer leaves behind. -/
structure Delivered where
  engine : Engine
  delivery : Delivery
  events : List Log.Event

/-- A response that fits a frame: the response itself, or an error in its place. -/
def Response.fitted (r : Response) : Response × List Log.Event :=
  if Frame.maxField < r.body.length then
    (.serverError "response body too large",
      [⟨.warn, "response body exceeds frame limit", [("body_len", .number r.body.length)]⟩])
  else (r, [])

/-- Answers a request whose context has been taken, unless the peer has given up. -/
def Engine.deliver (e : Engine) (context : Address) (r : Response) (flag : Option Address) :
    Delivered :=
  let (e, cancelled) := e.ask flag
  if cancelled then ⟨e.release context, .released, []⟩
  else
    let (r, events) := r.fitted
    ⟨e.complete context (Frame.encodeResponse r), .sent, events⟩

structure CompletionToken where
  context : Option Address
deriving DecidableEq, Repr

namespace CompletionToken

/-- The token without its context, and the context. -/
def take (t : CompletionToken) : CompletionToken × Option Address := (⟨none⟩, t.context)

def isConsumed (t : CompletionToken) : Bool := t.context.isNone

/-- Answers the request of a token, if its context is still there. -/
def complete (t : CompletionToken) (e : Engine) (r : Response) (flag : Option Address) :
    CompletionToken × Delivered :=
  let (t, context) := t.take
  match context with
  | none => (t, ⟨e, .alreadyConsumed, []⟩)
  | some context => (t, e.deliver context r flag)

/-- The end of a token: a context that is still in it is let go. -/
def drop (t : CompletionToken) (e : Engine) : Engine × List Log.Event :=
  match t.context with
  | none => (e, [])
  | some context =>
    (e.release context, [⟨.debug, "completion token dropped before completing", []⟩])

def describe (t : CompletionToken) : String :=
  Quoted.openRecord "CompletionToken" [("consumed", Quoted.bool t.isConsumed)]

end CompletionToken
end RequestBridge
