import RequestBridge.Dispatch.Completion
import RequestBridge.Dispatch.Settlement
import RequestBridge.Routing.Group

/-! The bridge between an engine and the chains that answer its requests.

A bridge is the engine, the routers and servers on this side, and the tasks: one for
each request whose chain has not come to its end. Everything that happens is a change of
one bridge into another. Who owns what is never counted but read off: a table is owned
by whoever still has its router, a flag by the tasks and copies that still refer to it. -/
namespace RequestBridge

abbrev RouterId := Nat

abbrev TaskId := Nat

/-- A router on a bridge. -/
structure Mounted where
  router : Router
  /-- How many have it, servers not counted. -/
  holders : Nat := 1

/-- How far a server has come. Between any two of these stages other servers may act. -/
inductive Stage where
  | idle
  /-- Its router has begun to start. A server that runs already goes on running. -/
  | attaching (handle : Option Address)
  /-- It is attached to the engine. -/
  | launching
  /-- The engine did not start it; it is still attached. -/
  | abandoning
  | running (handle : Address)
  /-- The engine has stopped it; it is still attached. -/
  | detaching
deriving DecidableEq, Repr

/-- The stage of a server that rests, with the handle that it has if it runs. -/
def Stage.resting : Option Address → Stage
  | some handle => .running handle
  | none => .idle

/-- The handle of a server that runs. -/
def Stage.handle? : Stage → Option Address
  | .running handle => some handle
  | .attaching handle => handle
  | _ => none

structure Server where
  port : UInt16
  router : RouterId
  limits : Frame.Limits := {}
  stage : Stage := .idle
  dropped : Bool := false
deriving DecidableEq, Repr

def Server.isRunning (s : Server) : Bool := s.stage.handle?.isSome

/-- Whether a start of the server has begun and not ended. -/
def Server.isStarting (s : Server) : Bool :=
  s.stage matches .attaching _ | .launching | .abandoning

/-- Whether the server is in the middle of a start or a stop. -/
def Server.isBusy (s : Server) : Bool := s.isStarting || s.stage == .detaching

def Server.describe (s : Server) : String :=
  Quoted.openRecord "Server" [("port", toString s.port), ("running", Quoted.bool s.isRunning)]

/-- A request on its way through a chain. -/
structure Task where
  id : TaskId
  route : UInt16
  /-- The context through which the request is answered. -/
  context : Option Address
  /-- The flag that says whether the peer has given up. -/
  flag : Option Address
  /-- What is left to do of the chain. -/
  act : Act Outcome
  begun : Bool := false
  /-- The closed gate at which the task waits. -/
  waiting : Option String := none

structure Bridge where
  engine : Engine
  routers : List Mounted := []
  servers : List Server := []
  /-- The tasks that have not ended, in the order in which they will go on. -/
  tasks : List Task := []
  nextTask : TaskId := 0
  /-- The flags that copies of cancellation tokens refer to which were given away. -/
  kept : List Address := []
  /-- The gates that are open. -/
  gates : List String := []
  /-- Whether tasks have stopped running for good. -/
  halted : Bool := false
  metrics : Metrics := {}
  /-- All events, the latest first. -/
  log : List Log.Event := []
  /-- All marks of chains, the latest first. -/
  marks : List String := []

namespace Bridge

def new (profile : Profile) : Bridge where
  engine := .new profile

/-- Logs events in order. -/
def say (b : Bridge) (events : List Log.Event) : Bridge := { b with log := events.reverse ++ b.log }

def task? (b : Bridge) (id : TaskId) : Option Task := b.tasks.find? (·.id == id)

/-- The flags that anything refers to. -/
def flags (b : Bridge) : List Address := b.kept ++ b.tasks.filterMap (·.flag)

/-- Whether anyone still has a router. -/
def isOwned (b : Bridge) (r : RouterId) : Bool :=
  (match b.routers[r]? with
    | some mounted => decide (0 < mounted.holders)
    | none => false) ||
  b.servers.any fun s => !s.dropped && s.router == r

/-- A router that someone still has. -/
def router? (b : Bridge) (r : RouterId) : Option Router :=
  if b.isOwned r then b.routers[r]?.map (·.router) else none

/-- A server that has not been given up. -/
def server? (b : Bridge) (s : ServerId) : Option Server := b.servers[s]?.filter (!·.dropped)

end Bridge
end RequestBridge
