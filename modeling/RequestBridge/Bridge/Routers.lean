import RequestBridge.Bridge.Basic

/-! Routers on a bridge. -/
namespace RequestBridge.Bridge

/-- What a router without a table is refused with. -/
def noTable : String := "Failed to create router"

/-- A new router with a table at the engine, unless the engine has no table for it. -/
def addRouter (b : Bridge) : Bridge × Option Address :=
  match b.engine.createTable with
  | (engine, none) => ({ b with engine }, none)
  | (engine, some table) =>
    ({ b with engine, routers := b.routers ++ [{ router := { table } }] }, some table)

/-- The bridge with another router in a place. -/
def setRouter (b : Bridge) (r : RouterId) (router : Router) : Bridge :=
  { b with routers := b.routers.modify r fun mounted => { mounted with router } }

/-- Frees the table of a router that no one has any more. -/
def freeIfUnowned (b : Bridge) (r : RouterId) : Bridge :=
  match b.routers[r]? with
  | some mounted =>
    if b.isOwned r then b else { b with engine := b.engine.freeTable mounted.router.table }
  | none => b

/-- The bridge with another number of holders of a router. -/
def setHolders (b : Bridge) (r : RouterId) (holders : Nat) : Bridge :=
  { b with routers := b.routers.modify r fun mounted => { mounted with holders } }

/-- One more has a router. -/
def shareRouter (b : Bridge) (r : RouterId) : Bridge :=
  match b.routers[r]? with
  | some mounted => if b.isOwned r then b.setHolders r (mounted.holders + 1) else b
  | none => b

/-- One of those who have a router gives it up. -/
def dropRouter (b : Bridge) (r : RouterId) : Bridge :=
  match b.routers[r]? with
  | some ⟨_, holders + 1⟩ => (b.setHolders r holders).freeIfUnowned r
  | _ => b

/-- Puts a stage around the chain of every route of a router. -/
def addStage (b : Bridge) (r : RouterId) (stage : Middleware) : Except Misuse Bridge :=
  match b.router? r with
  | some router => (router.addStage stage).map (b.setRouter r)
  | none => .error .unknown

/-- Changes the phase of a router. -/
def changePhase (b : Bridge) (r : RouterId) (transition : Transition) : Except Misuse Bridge :=
  match b.router? r with
  | some router => (router.change transition).map (b.setRouter r)
  | none => .error .unknown

/-- Adds a route to a router. -/
def addRoute (b : Bridge) (r : RouterId) (path : String) (route : Route) :
    Bridge × Except Misuse UInt16 :=
  match b.router? r with
  | some router =>
    let added := router.addRoute b.engine .get path route
    (({ b with engine := added.engine }.setRouter r added.router).say added.events, added.result)
  | none => (b, .error .unknown)

/-- Adds a group of routes to a router. -/
def addGroup (b : Bridge) (r : RouterId) (base : String) (stages : List Middleware)
    (items : List Declaration) : Bridge × Except Misuse (List Declared) :=
  match b.router? r with
  | some router =>
    let walk := router.addGroup b.engine base stages items
    (({ b with engine := walk.engine }.setRouter r walk.router).say walk.events, walk.result)
  | none => (b, .error .unknown)

end RequestBridge.Bridge
