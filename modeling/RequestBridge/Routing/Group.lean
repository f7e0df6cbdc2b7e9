import RequestBridge.Routing.Router

/-! Groups of routes below a common path and behind common stages. -/
namespace RequestBridge

/-- A tree of routes and groups as it is written down. -/
inductive Declaration where
  | route (path : String) (route : Route)
  | group (base : String) (stages : List Middleware) (items : List Declaration)
deriving Inhabited

/-- A group in its place: the path above its routes, and the stages around them, those of
the groups around it included. -/
structure Group where
  base : String
  stages : List Middleware

/-- What has become of a declaration. -/
inductive Declared where
  | route (id : UInt16)
  | group (group : Group) (items : List Declared)

namespace Group
variable {E : Type}

/-- The outermost group with a path and stages. -/
def outermost (base : String) (stages : List Middleware) : Group := ⟨Path.join "" base, stages⟩

/-- A group within a group. -/
def nested (g : Group) (base : String) (stages : List Middleware) : Group :=
  ⟨Path.join g.base base, g.stages ++ stages⟩

/-- Adds a route below the group. -/
def addRoute [RouteHost E] (g : Group) (r : Router) (engine : E) (path : String) (route : Route) :
    Router.Added E :=
  r.addRoute engine .get (Path.join g.base path) { route with stages := g.stages ++ route.stages }

def describe (g : Group) : String :=
  Quoted.openRecord "RouteGroup" [
    ("prefix", Quoted.text g.base), ("middlewares", toString g.stages.length)]

/-- What comes of declaring several things: the router and the engine, what became of each
or the first misuse, and what was logged. -/
structure Walk (E : Type) where
  router : Router
  engine : E
  result : Except Misuse (List Declared)
  events : List Log.Event

mutual

/-- Declares one thing below the group. -/
def declare [RouteHost E] (g : Group) (r : Router) (engine : E) : Declaration → Walk E
  | .route path route =>
    let added := g.addRoute r engine path route
    ⟨added.router, added.engine, added.result.map fun id => [.route id], added.events⟩
  | .group base stages items =>
    let inner := g.nested base stages
    let walk := inner.declareAll r engine items
    { walk with result := walk.result.map fun items => [.group inner items] }

/-- Declares things below the group from first to last. A misuse ends the walk, and what was
added before it stays. -/
def declareAll [RouteHost E] (g : Group) (r : Router) (engine : E) : List Declaration → Walk E
  | [] => ⟨r, engine, .ok [], []⟩
  | item :: rest =>
    let first := g.declare r engine item
    match first.result with
    | .error misuse => { first with result := .error misuse }
    | .ok declared =>
      let walk := g.declareAll first.router first.engine rest
      { walk with
        result := walk.result.map fun more => declared ++ more
        events := first.events ++ walk.events }

end

end Group

/-- Declares an outermost group on a router that is being built. -/
def Router.addGroup {E : Type} [RouteHost E] (r : Router) (engine : E) (base : String)
    (stages : List Middleware) (items : List Declaration) : Group.Walk E :=
  match r.allow .group with
  | .error misuse => ⟨r, engine, .error misuse, []⟩
  | .ok () =>
    let group := Group.outermost base stages
    let walk := group.declareAll r engine items
    { walk with result := walk.result.map fun items => [.group group items] }

end RequestBridge
