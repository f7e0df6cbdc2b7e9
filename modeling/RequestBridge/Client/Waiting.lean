import RequestBridge.Engine.View

/-! Clients that wait for the ends of their requests, each at its own pace.

A client asks to be called, looks whether its request has ended, and falls asleep if it
has not, unless it has been called meanwhile. The end of a request is first written down
and then announced, and an announcement calls everyone who has asked before, whatever
request they wait for. So a client that sleeps through the end of its own request has not
missed the announcement: it is still to come. -/
namespace RequestBridge.Client

/-- Where a waiting client stands. -/
inductive Standing where
  /-- It is about to ask to be called. -/
  | arriving
  /-- It has asked to be called, and is about to look. -/
  | looking
  /-- It has looked in vain, and is about to fall asleep. -/
  | drowsy
  | asleep
  /-- It has found how its request ended. -/
  | served (terminal : Terminal)
deriving DecidableEq, Repr

structure Waiter where
  /-- The context of its request. -/
  context : Address
  standing : Standing := .arriving
  /-- Whether it was called since it asked to be. -/
  called : Bool := false
deriving DecidableEq, Repr

/-- Whether the client is to be called. -/
def Waiter.listens (w : Waiter) : Bool :=
  w.standing == .looking || w.standing == .drowsy || w.standing == .asleep

/-- All clients that wait, and the ends of requests that they wait for. -/
structure Lobby where
  /-- The ends that are written down, in order. -/
  ended : List Terminal := []
  /-- Those of them that are not announced yet. -/
  unannounced : List Terminal := []
  waiters : List Waiter := []
deriving DecidableEq, Repr

/-- What may happen in a lobby. -/
inductive Lobby.Event where
  /-- Someone comes to wait for the end of a request. -/
  | enter (context : Address)
  /-- The end of a request is written down. -/
  | write (terminal : Terminal)
  /-- An end that is written down is announced. -/
  | announce (terminal : Terminal)
  /-- One of the clients takes its next step. -/
  | step (waiter : Nat)
  /-- One of the clients gives up. -/
  | leave (waiter : Nat)
deriving DecidableEq, Repr

namespace Lobby

/-- The first end that is written down for a context. -/
def find? (l : Lobby) (context : Address) : Option Terminal :=
  l.ended.find? (·.context == context)

/-- The next step of a client. A client that is called does not fall asleep, or wakes up, and
begins anew. -/
def next (l : Lobby) (w : Waiter) : Waiter :=
  match w.standing with
  | .arriving => { w with standing := .looking, called := false }
  | .looking =>
    match l.find? w.context with
    | some terminal => { w with standing := .served terminal }
    | none => { w with standing := .drowsy }
  | .drowsy => { w with standing := if w.called then .arriving else .asleep }
  | .asleep => if w.called then { w with standing := .arriving } else w
  | .served _ => w

/-- Calls everyone who listens. -/
def call (l : Lobby) : Lobby :=
  { l with waiters := l.waiters.map fun w => if w.listens then { w with called := true } else w }

def apply (l : Lobby) : Event → Lobby
  | .enter context => { l with waiters := l.waiters ++ [{ context }] }
  | .write terminal =>
    { l with ended := l.ended ++ [terminal], unannounced := l.unannounced ++ [terminal] }
  | .announce terminal =>
    if terminal ∈ l.unannounced then
      call { l with unannounced := l.unannounced.erase terminal }
    else l
  | .step i => { l with waiters := l.waiters.modify i l.next }
  | .leave i => { l with waiters := l.waiters.eraseIdx i }

/-- The lobby after some events. -/
def run (l : Lobby) : List Event → Lobby
  | [] => l
  | event :: rest => (l.apply event).run rest

theorem run_append (l : Lobby) (before after : List Event) :
    l.run (before ++ after) = (l.run before).run after := by
  induction before generalizing l with
  | nil => rfl
  | cons event rest ih => exact ih _

end Lobby
end RequestBridge.Client
