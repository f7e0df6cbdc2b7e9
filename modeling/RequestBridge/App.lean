import RequestBridge.Bridge.Servers
import RequestBridge.Bridge.Tasks
import RequestBridge.Workers.Launch

/-! Applications: a router and a server on one port, under one roof. -/
namespace RequestBridge

structure App where
  router : RouterId
  server : ServerId
  /-- Whether tasks run on threads of the application's own, which end with it. -/
  ownsWorkers : Bool
deriving DecidableEq, Repr

namespace App

/-- Why there is no application. -/
inductive Error where
  | config (v : Config.Violation)
  | workers (e : Workers.LaunchError)
  /-- The engine has no table. -/
  | noTable
deriving DecidableEq, Repr

/-- The text with which the making of an application panics where it does not return the
error. -/
def Error.panic? : Error → Option String
  | .config v => v.panic?
  | .workers e => some e.message
  | .noTable => none

/-- A router without routes, and a server for it. -/
def assemble (b : Bridge) (port : UInt16) (limits : Frame.Limits) (ownsWorkers : Bool) :
    Bridge × Except Error App :=
  let app : App := ⟨b.routers.length, b.servers.length, ownsWorkers⟩
  match b.addRouter with
  | (b, none) => (b, .error .noTable)
  | (b, some _) => (b.addServer app.router port limits, .ok app)

/-- An application as a configuration describes it, if the configuration is usable and its
threads can be launched. -/
def ofConfig (b : Bridge) (c : Config) : Bridge × Except Error App :=
  match c.check with
  | .error v => (b, .error (.config v))
  | .ok () =>
    match Workers.checkLaunch c.workers with
    | .error e => (b, .error (.workers e))
    | .ok () => assemble b c.server.port c.frames.limits true

/-- The end of an application: its server stops, its tasks end if they have threads of their
own, and its router and server are given up. -/
def drop (app : App) (b : Bridge) : Bridge :=
  let b := b.stop app.server
  let b := if app.ownsWorkers then b.halt else b
  (b.dropRouter app.router).dropServer app.server

def describe (app : App) (b : Bridge) : String :=
  Quoted.record "App" [
    ("server", ((b.servers[app.server]?).map Server.describe).getD ""),
    ("router", ((b.routers[app.router]?).map (·.router.describe)).getD ""),
    ("owns_runtime", Quoted.bool app.ownsWorkers)]

end App
end RequestBridge
