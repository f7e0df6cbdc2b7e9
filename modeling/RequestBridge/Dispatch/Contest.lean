import RequestBridge.Dispatch.Completion

/-! Several callers that answer one request, each at its own pace.

A caller takes the context out of the token, asks whether the peer has given up, and takes
the terminal action. Only the first of these steps is guarded by the token, so that other
callers may come, and peers may give up, between any two of them. Calls that are made one
after the other, of one caller or of several, are callers whose steps do not mix. -/
namespace RequestBridge

/-- Where a caller stands. -/
inductive Caller.Standing where
  /-- It is about to take the context. -/
  | arriving
  /-- It has taken the context, and is about to ask whether the peer has given up. -/
  | holding (context : Address)
  /-- It knows whether the peer has given up, and is about to take the terminal action. -/
  | resolved (context : Address) (cancelled : Bool)
  /-- It has returned. -/
  | returned (delivery : Delivery)
deriving DecidableEq, Repr

/-- Someone who answers a request. -/
structure Caller where
  response : Response
  /-- The flag that it looks at, if it was given one. -/
  flag : Option Address
  standing : Caller.Standing := .arriving

/-- A token, and those who answer through it. -/
structure Contest where
  engine : Engine
  token : CompletionToken
  callers : List Caller
  log : List Log.Event := []

/-- What may happen in a contest. -/
inductive Contest.Event where
  /-- A peer gives up. -/
  | cancel (flag : Address)
  /-- One of the callers takes its next step. -/
  | step (caller : Nat)
deriving DecidableEq, Repr

namespace Contest

/-- A contest in which no one has taken a step. -/
def start (engine : Engine) (context : Option Address)
    (calls : List (Response × Option Address)) : Contest where
  engine
  token := ⟨context⟩
  callers := calls.map fun (response, flag) => { response, flag }

def setCaller (c : Contest) (i : Nat) (w : Caller) (standing : Caller.Standing) : Contest :=
  { c with callers := c.callers.set i { w with standing } }

/-- The next step of a caller, from where it stands. -/
def step (c : Contest) (i : Nat) (w : Caller) : Contest :=
  match w.standing with
  | .arriving =>
    let (token, context) := c.token.take
    let c := { c with token }
    match context with
    | none => c.setCaller i w (.returned .alreadyConsumed)
    | some context => c.setCaller i w (.holding context)
  | .holding context =>
    let (engine, cancelled) := c.engine.ask w.flag
    { c with engine }.setCaller i w (.resolved context cancelled)
  | .resolved context true =>
    { c with engine := c.engine.release context }.setCaller i w (.returned .released)
  | .resolved context false =>
    let (r, events) := w.response.fitted
    let engine := c.engine.complete context (Frame.encodeResponse r)
    { c with engine, log := c.log ++ events }.setCaller i w (.returned .sent)
  | .returned _ => c

def apply (c : Contest) : Event → Contest
  | .cancel flag => { c with engine := c.engine.cancel flag }
  | .step i =>
    match c.callers[i]? with
    | some w => c.step i w
    | none => c

/-- The contest after some events. -/
def run (c : Contest) : List Event → Contest
  | [] => c
  | event :: rest => (c.apply event).run rest

theorem run_append (c : Contest) (before after : List Event) :
    c.run (before ++ after) = (c.run before).run after := by
  induction before generalizing c with
  | nil => rfl
  | cons event rest ih => exact ih _

/-- The end of the token. -/
def drop (c : Contest) : Contest :=
  let (engine, events) := c.token.drop c.engine
  { c with engine, token := ⟨none⟩, log := c.log ++ events }

end Contest
end RequestBridge
