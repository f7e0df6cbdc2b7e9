import RequestBridge.Chain.Pipeline

/-! The routes of one router, by their numbers.

Routes are numbered from zero in the order in which they come, and a route never
changes. Once the registry is sealed nothing in it changes. -/
namespace RequestBridge

/-- A handler and the stages that belong to its route alone. -/
structure Route where
  stages : List Middleware
  handler : Handler

/-- How many routes a number of sixteen bits can tell apart. -/
def maxRoutes : Nat := 65536

structure Registry where
  /-- The routes, the latest first. -/
  latest : List Route := []
  count : Nat := 0
  count_eq : count = latest.length := by rfl
  /-- The stages around the chain of every route, the outermost first. -/
  globals : List Middleware := []
  isSealed : Bool := false

namespace Registry

/-- The routes in the order of their numbers. -/
def routes (r : Registry) : List Route := r.latest.reverse

/-- The route with a number. -/
def route? (r : Registry) (id : UInt16) : Option Route :=
  if id.toNat < r.count then r.latest[r.count - 1 - id.toNat]? else none

/-- The registry with one more route. -/
def push (r : Registry) (route : Route) : Registry :=
  { r with
    latest := route :: r.latest
    count := r.count + 1
    count_eq := by simp [r.count_eq] }

def addGlobal (r : Registry) (stage : Middleware) : Registry :=
  { r with globals := r.globals ++ [stage] }

def close (r : Registry) : Registry := { r with isSealed := true }

/-- The whole chain of a route at present. -/
def pipeline (r : Registry) (route : Route) : Pipeline :=
  ⟨r.globals ++ route.stages, route.handler⟩

theorem length_routes (r : Registry) : r.routes.length = r.count := by
  simp [routes, r.count_eq]

theorem route?_eq (r : Registry) (id : UInt16) : r.route? id = r.routes[id.toNat]? := by
  unfold route? routes
  split
  · next h =>
    have := r.count_eq
    rw [List.getElem?_reverse (by omega), r.count_eq]
  · next h =>
    have := r.count_eq
    rw [eq_comm, List.getElem?_eq_none_iff]
    simp only [List.length_reverse]
    omega

theorem routes_push (r : Registry) (route : Route) :
    (r.push route).routes = r.routes ++ [route] := by
  simp [routes, push]

def describe (r : Registry) : String :=
  Quoted.record "RouteRegistry" [
    ("routes", toString r.count),
    ("globals", toString r.globals.length),
    ("sealed", Quoted.bool r.isSealed)]

end Registry

def Route.names (r : Route) : List String := r.stages.map (·.name)

def Route.describe (r : Route) : String :=
  Quoted.openRecord "RouteEntry" [("middlewares", Quoted.list (r.names.map Quoted.text))]

end RequestBridge
