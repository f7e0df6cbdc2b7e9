import RequestBridge.Bridge.Routers

/-! Servers on a bridge.

A start and a stop are made of steps, each with one call to the engine, and steps of
several servers may come in any order. A start that fails takes back all it has done. -/
namespace RequestBridge

/-- Why a server did not start. -/
inductive StartError where
  | misuse (m : Misuse)
  | startup (message : String)
deriving DecidableEq, Repr

/-- What a step of a start leaves behind, with the outcome if it is the last step. -/
structure Progress where
  bridge : Bridge
  outcome : Option (Except StartError Unit) := none

namespace Bridge

/-- Prepares a server for the routes of a router, if anyone has the router. -/
def addServer (b : Bridge) (router : RouterId) (port : UInt16) (limits : Frame.Limits) : Bridge :=
  if b.isOwned router then { b with servers := b.servers ++ [{ port, router, limits }] } else b

def setStage (b : Bridge) (s : ServerId) (stage : Stage) : Bridge :=
  { b with servers := b.servers.modify s fun server => { server with stage } }

/-- An event about a server, which names its port. -/
def portEvent (level : Log.Level) (message : String) (port : UInt16)
    (more : List (String × Log.Value)) : Log.Event :=
  ⟨level, message, ("port", .number port.toNat) :: more⟩

def routeCount (b : Bridge) (r : RouterId) : Nat :=
  match b.routers[r]? with
  | some mounted => mounted.router.registry.count
  | none => 0

/-- The end of a start that failed: the router is taken back, and the failure is logged with
a message that the engine may still be asked for. -/
def failStart (b : Bridge) (s : ServerId) (server : Server) (event : String)
    (message : Engine → Engine × String) : Progress :=
  let b := b.setStage s (.resting server.stage.handle?)
  match b.changePhase server.router .rollback with
  | .error misuse => ⟨b, some (.error (.misuse misuse))⟩
  | .ok b =>
    let (engine, message) := message b.engine
    ⟨{ b with engine }.say [portEvent .warn event server.port [("error", .text message)]],
      some (.error (.startup message))⟩

/-- A start begins with the router, which has to be in the right phase. A server begins
nothing while it is in the middle of something. -/
def beginStart (b : Bridge) (s : ServerId) : Progress :=
  match b.server? s with
  | none => ⟨b, some (.error (.misuse .unknown))⟩
  | some server =>
    if server.isBusy then ⟨b, some (.error (.misuse .busy))⟩
    else
      match b.changePhase server.router .begin with
      | .error misuse => ⟨b, some (.error (.misuse misuse))⟩
      | .ok b => ⟨b.setStage s (.attaching server.stage.handle?), none⟩

/-- The message of a failure that has none of its own. -/
def unexpected : String := "Unexpected error"

/-- The next step of a start that has begun. -/
def stepStart (b : Bridge) (s : ServerId) : Progress :=
  match b.server? s with
  | none => ⟨b, none⟩
  | some server =>
    match server.stage with
    | .attaching _ =>
      match b.engine.attach s with
      | .error message => b.failStart s server "failed to attach dispatcher" (·, message)
      | .ok engine => ⟨{ b with engine }.setStage s .launching, none⟩
    | .launching =>
      let table := b.routers[server.router]?.map (·.router.table)
      match b.engine.startServer server.port table with
      | (engine, none) => ⟨{ b with engine }.setStage s .abandoning, none⟩
      | (engine, some handle) =>
        let b := { b with engine }.setStage s (.running handle)
        match b.changePhase server.router .commit with
        | .error misuse => ⟨b, some (.error (.misuse misuse))⟩
        | .ok b =>
          ⟨b.say [portEvent .info "server started" server.port
            [("routes", .number (b.routeCount server.router))]], some (.ok ())⟩
    | .abandoning =>
      { b with engine := b.engine.detach }.failStart s server "server failed to start" fun engine =>
        let (engine, message) := engine.takeError
        (engine, message.getD unexpected)
    | _ => ⟨b, none⟩

/-- The steps that a start still takes once it has begun: three at most. -/
def finishStart (b : Bridge) (s : ServerId) : Nat → Bridge × Except StartError Unit
  | 0 => (b, .ok ())
  | steps + 1 =>
    match b.stepStart s with
    | ⟨b, some outcome⟩ => (b, outcome)
    | ⟨b, none⟩ => b.finishStart s steps

/-- Starts a server, with nothing in between. -/
def start (b : Bridge) (s : ServerId) : Bridge × Except StartError Unit :=
  match b.beginStart s with
  | ⟨b, some outcome⟩ => (b, outcome)
  | ⟨b, none⟩ => b.finishStart s 3

/-- The next step of a stop. A server that does not run takes none. -/
def stepStop (b : Bridge) (s : ServerId) : Bridge :=
  match b.server? s with
  | none => b
  | some server =>
    match server.stage with
    | .running handle => { b with engine := b.engine.stopServer handle }.setStage s .detaching
    | .detaching =>
      ({ b with engine := b.engine.detach }.setStage s .idle).say
        [portEvent .info "server stopped" server.port []]
    | _ => b

/-- Stops a server, with nothing in between. -/
def stop (b : Bridge) (s : ServerId) : Bridge := (b.stepStop s).stepStop s

/-- A server is given up, but not while it starts. It is stopped first, and lets its router
go. -/
def dropServer (b : Bridge) (s : ServerId) : Bridge :=
  match b.server? s with
  | none => b
  | some server =>
    if server.isStarting then b
    else
      let b := b.stop s
      freeIfUnowned
        { b with servers := b.servers.modify s fun server => { server with dropped := true } }
        server.router

/-- The routers are given up, and then the servers, in the order in which they came. -/
def dropAll (b : Bridge) : Bridge :=
  let b := (List.range b.routers.length).foldl dropRouter b
  (List.range b.servers.length).foldl dropServer b

end Bridge
end RequestBridge
