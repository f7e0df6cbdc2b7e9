import RequestBridge.Engine.View
import RequestBridge.Log.Event
import RequestBridge.Routing.Registry

/-! Routers: a table at the engine, the routes behind it, and a life in three phases.

Routes and stages are added while the router is built. A start takes it to the next
phase, and from there it is either started for good, which seals it, or taken back. What
is asked of a router in the wrong phase is refused and changes nothing. -/
namespace RequestBridge

inductive Phase where
  | building
  | starting
  | started
deriving DecidableEq, Repr

def Phase.name : Phase → String
  | .building => "Building"
  | .starting => "Starting"
  | .started => "Started"

/-- What is asked of a router while it is built. -/
inductive Addition where
  | stage
  | route
  | group
deriving DecidableEq, Repr

def Addition.name : Addition → String
  | .stage => "use_middleware"
  | .route => "route"
  | .group => "group"

/-- A change of phase. -/
inductive Transition where
  | begin
  | commit
  | rollback
deriving DecidableEq, Repr

namespace Transition

def name : Transition → String
  | .begin => "begin_start"
  | .commit => "commit_start"
  | .rollback => "rollback_start"

/-- The phase that a change sets out from. -/
def source : Transition → Phase
  | .begin => .building
  | .commit => .starting
  | .rollback => .starting

def target : Transition → Phase
  | .begin => .starting
  | .commit => .started
  | .rollback => .building

end Transition

/-- What a router refuses to do. -/
inductive Misuse where
  | notBuilding (addition : Addition) (phase : Phase)
  | wrongPhase (transition : Transition) (phase : Phase)
  | sealedRegistry (addition : Addition)
  /-- All numbers of routes are taken. -/
  | outOfRoutes (count : Nat)
  /-- The engine did not accept a route. -/
  | refused (method : Method) (pattern : String) (code : Int)
  /-- No one has such a router or server. -/
  | unknown
  /-- The server is in the middle of a start or a stop. -/
  | busy
deriving DecidableEq, Repr

def Misuse.message : Misuse → String
  | .notBuilding addition phase =>
    addition.name ++ " is only allowed while building, router is " ++ phase.name
  | .wrongPhase transition phase =>
    transition.name ++ " requires phase " ++ transition.source.name ++ ", router is " ++ phase.name
  | .sealedRegistry .stage => "route registry is sealed, cannot add a global middleware"
  | .sealedRegistry _ => "route registry is sealed, cannot register a route"
  | .outOfRoutes count => s!"route id space exhausted ({count} routes)"
  | .refused method pattern code =>
    "engine rejected route " ++ method.name ++ " " ++ pattern ++ s!" (code {code})"
  | .unknown => "no such router or server"
  | .busy => "server is starting or stopping"

/-- An engine as far as routes go. It is told of a route of a table, and accepts it with code
zero or refuses it with another one. -/
class RouteHost (E : Type) where
  registerRoute : E → Address → Method → Bytes → UInt16 → E × Int

instance : RouteHost Engine where
  registerRoute := Engine.registerRoute

structure Router where
  /-- The table at the engine. -/
  table : Address
  phase : Phase := .building
  registry : Registry := {}

namespace Router

/-- Refuses an addition unless the router is being built. -/
def allow (r : Router) (addition : Addition) : Except Misuse Unit :=
  if r.phase = .building then .ok () else .error (.notBuilding addition r.phase)

/-- Adds a stage around the chain of every route. -/
def addStage (r : Router) (stage : Middleware) : Except Misuse Router := do
  r.allow .stage
  if r.registry.isSealed then throw (.sealedRegistry .stage)
  return { r with registry := r.registry.addGlobal stage }

/-- A change of phase. A router that is started for good is sealed with it. -/
def change (r : Router) (transition : Transition) : Except Misuse Router :=
  if r.phase = transition.source then
    .ok { r with
      phase := transition.target
      registry := if transition = .commit then r.registry.close else r.registry }
  else .error (.wrongPhase transition r.phase)

/-- What comes of adding a route: the router and the engine, the number of the route or the
reason why it was not added, and what was logged. -/
structure Added (E : Type) where
  router : Router
  engine : E
  result : Except Misuse UInt16
  events : List Log.Event

/-- The number of the next route. -/
def nextRoute (r : Router) : Except Misuse UInt16 := do
  r.allow .route
  if r.registry.isSealed then throw (.sealedRegistry .route)
  if maxRoutes ≤ r.registry.count then throw (.outOfRoutes r.registry.count)
  return UInt16.ofNat r.registry.count

def registeredEvent (method : Method) (pattern : String) (id : UInt16) : Log.Event where
  level := .debug
  message := "route registered"
  fields := [("route_id", .number id.toNat), ("http.method", .text method.name),
    ("http.path", .text pattern)]

/-- Adds a route. It is announced to the engine under the next number first, and kept only
if the engine accepts it. -/
def addRoute {E : Type} [RouteHost E] (r : Router) (engine : E) (method : Method) (path : String)
    (route : Route) : Added E :=
  match r.nextRoute with
  | .error misuse => ⟨r, engine, .error misuse, []⟩
  | .ok id =>
    let pattern := Path.join "" path
    let (engine, code) :=
      RouteHost.registerRoute engine r.table method (Utf8.encode pattern) id
    if code = 0 then
      ⟨{ r with registry := r.registry.push route }, engine, .ok id,
        [registeredEvent method pattern id]⟩
    else ⟨r, engine, .error (.refused method pattern code), []⟩

def describe (r : Router) : String :=
  Quoted.openRecord "Router" [("phase", r.phase.name), ("routes", toString r.registry.count)]

end Router
end RequestBridge
