import RequestBridge.Routing.Group

/-! Routes that are added one after another.

Once every route of a tree of groups has its whole path and all the stages above it, the tree is
a list of registrations. To declare the tree is to make the registrations from first to last, up
to the first one that is not accepted (`Router.follows_addGroup`). -/
namespace RequestBridge

/-- A route with its whole path, and with all the stages that belong to it. -/
structure Registration where
  path : String
  route : Route

/-- The pattern that the engine is told. -/
def Registration.pattern (x : Registration) : String := Path.join "" x.path

namespace Router
variable {E : Type} [RouteHost E]

/-! ### One route -/

theorem nextRoute_of_phase {r : Router} (h : r.phase ≠ .building) :
    r.nextRoute = .error (.notBuilding .route r.phase) := by
  unfold nextRoute allow
  rw [if_neg h]
  rfl

/-- A router that is being built and is not sealed has a number for its next route, as long as
there are numbers. -/
theorem nextRoute_eq {r : Router} (hphase : r.phase = .building)
    (hopen : r.registry.isSealed = false) :
    r.nextRoute = if maxRoutes ≤ r.registry.count then .error (.outOfRoutes r.registry.count)
      else .ok (UInt16.ofNat r.registry.count) := by
  unfold nextRoute allow
  rw [if_pos hphase, hopen]
  split <;> rfl

theorem nextRoute_eq_ok {r : Router} {id : UInt16} (h : r.nextRoute = .ok id) :
    r.phase = .building ∧ r.registry.isSealed = false ∧ r.registry.count < maxRoutes ∧
      id = UInt16.ofNat r.registry.count := by
  by_cases hphase : r.phase = .building
  · cases hopen : r.registry.isSealed with
    | true =>
      unfold nextRoute allow at h
      rw [if_pos hphase, hopen] at h
      cases h
    | false =>
      rw [nextRoute_eq hphase hopen] at h
      split at h
      · cases h
      · next hroom =>
        cases h
        exact ⟨hphase, rfl, Nat.lt_of_not_le hroom, rfl⟩
  · rw [nextRoute_of_phase hphase] at h
    cases h

/-- A route that gets no number is not told to the engine. One that gets a number is kept if the
engine accepts it, and otherwise nothing of it is left on this side. -/
theorem addRoute_cases (r : Router) (e : E) (method : Method) (path : String) (route : Route) :
    (∃ misuse, r.nextRoute = .error misuse ∧
      r.addRoute e method path route = ⟨r, e, .error misuse, []⟩) ∨
    (∃ id e', r.nextRoute = .ok id ∧
      RouteHost.registerRoute e r.table method (Utf8.encode (Path.join "" path)) id = (e', 0) ∧
      r.addRoute e method path route = ⟨{ r with registry := r.registry.push route }, e', .ok id,
        [registeredEvent method (Path.join "" path) id]⟩) ∨
    ∃ id e' code, r.nextRoute = .ok id ∧
      RouteHost.registerRoute e r.table method (Utf8.encode (Path.join "" path)) id = (e', code) ∧
      code ≠ 0 ∧ r.addRoute e method path route =
        ⟨r, e', .error (.refused method (Path.join "" path) code), []⟩ := by
  unfold addRoute
  cases r.nextRoute with
  | error misuse => exact .inl ⟨misuse, rfl, rfl⟩
  | ok id =>
    dsimp only
    rcases htold : RouteHost.registerRoute e r.table method (Utf8.encode (Path.join "" path)) id
      with ⟨e', code⟩
    by_cases hcode : code = 0
    · subst hcode
      exact .inr (.inl ⟨id, e', rfl, htold, rfl⟩)
    · exact .inr (.inr ⟨id, e', code, rfl, htold, hcode, if_neg hcode⟩)

/-! ### Several routes -/

/-- What comes of several registrations: the router and the engine, those that were accepted, and
the misuse that ended the series, if one did. -/
structure Series (E : Type) where
  router : Router
  engine : E
  taken : List Registration
  misuse : Option Misuse

/-- Makes registrations from first to last, up to the first one that is not accepted. -/
def addAll (r : Router) (e : E) : List Registration → Series E
  | [] => ⟨r, e, [], none⟩
  | x :: rest =>
    let added := r.addRoute e .get x.path x.route
    match added.result with
    | .error misuse => ⟨added.router, added.engine, [], some misuse⟩
    | .ok _ =>
      let series := added.router.addAll added.engine rest
      { series with taken := x :: series.taken }

/-- A series goes on with what comes next, unless it has ended. -/
theorem addAll_append (r : Router) (e : E) (xs ys : List Registration) :
    r.addAll e (xs ++ ys) =
      let first := r.addAll e xs
      match first.misuse with
      | some _ => first
      | none =>
        let more := first.router.addAll first.engine ys
        { more with taken := first.taken ++ more.taken } := by
  induction xs generalizing r e with
  | nil => rfl
  | cons x rest ih =>
    rw [List.cons_append, addAll, addAll]
    dsimp only
    cases (r.addRoute e .get x.path x.route).result with
    | error misuse => rfl
    | ok id =>
      dsimp only
      rw [ih]
      generalize (r.addRoute e .get x.path x.route).router.addAll
        (r.addRoute e .get x.path x.route).engine rest = first
      obtain ⟨r', e', taken, misuse⟩ := first
      cases misuse <;> rfl

/-- A router that is not being built takes no route, and the engine is told of none. -/
theorem addAll_of_phase {r : Router} (h : r.phase ≠ .building) (e : E) (xs : List Registration) :
    (r.addAll e xs).router = r ∧ (r.addAll e xs).engine = e ∧ (r.addAll e xs).taken = [] := by
  cases xs with
  | nil => exact ⟨rfl, rfl, rfl⟩
  | cons x rest =>
    have hadded : r.addRoute e .get x.path x.route =
        ⟨r, e, .error (.notBuilding .route r.phase), []⟩ := by
      unfold addRoute
      rw [nextRoute_of_phase h]
    rw [addAll, hadded]
    exact ⟨rfl, rfl, rfl⟩

end Router

/-! ### Groups -/

namespace Group
variable {E : Type} [RouteHost E]

/-- What a route below a group registers. -/
def registration (g : Group) (path : String) (route : Route) : Registration :=
  ⟨Path.join g.base path, { route with stages := g.stages ++ route.stages }⟩

mutual

/-- What a declaration below a group registers, in order. -/
def listed (g : Group) : Declaration → List Registration
  | .route path route => [g.registration path route]
  | .group base stages items => (g.nested base stages).listedAll items

/-- What several declarations below a group register, in order. -/
def listedAll (g : Group) : List Declaration → List Registration
  | [] => []
  | item :: rest => g.listed item ++ g.listedAll rest

end

/-- A walk that does what a series of registrations does. -/
structure Walk.Follows (w : Walk E) (series : Router.Series E) : Prop where
  router : w.router = series.router
  engine : w.engine = series.engine
  misuse : series.misuse = match w.result with
    | .ok _ => none
    | .error misuse => some misuse

theorem follows_addRoute (g : Group) (r : Router) (e : E) (path : String) (route : Route) :
    (g.declare r e (.route path route)).Follows (r.addAll e [g.registration path route]) := by
  have hsame : g.addRoute r e path route =
      r.addRoute e .get (g.registration path route).path (g.registration path route).route := rfl
  rw [declare, Router.addAll, hsame]
  generalize r.addRoute e .get _ _ = added
  obtain ⟨r', e', result, events⟩ := added
  cases result <;> exact ⟨rfl, rfl, rfl⟩

mutual

theorem follows_declare (g : Group) (r : Router) (e : E) :
    ∀ item, (g.declare r e item).Follows (r.addAll e (g.listed item))
  | .route path route => g.follows_addRoute r e path route
  | .group base stages items => by
    obtain ⟨hrouter, hengine, hmisuse⟩ := (g.nested base stages).follows_declareAll r e items
    rw [declare, listed]
    refine ⟨hrouter, hengine, hmisuse.trans ?_⟩
    dsimp only
    cases ((g.nested base stages).declareAll r e items).result <;> rfl

theorem follows_declareAll (g : Group) (r : Router) (e : E) :
    ∀ items, (g.declareAll r e items).Follows (r.addAll e (g.listedAll items))
  | [] => by
    rw [declareAll, listedAll]
    exact ⟨rfl, rfl, rfl⟩
  | item :: rest => by
    obtain ⟨hrouter, hengine, hmisuse⟩ := g.follows_declare r e item
    rw [declareAll, listedAll, Router.addAll_append]
    dsimp only
    cases hresult : (g.declare r e item).result with
    | error misuse =>
      rw [hresult] at hmisuse
      rw [hmisuse]
      exact ⟨hrouter, hengine, hmisuse⟩
    | ok declared =>
      rw [hresult] at hmisuse
      rw [hmisuse, ← hrouter, ← hengine]
      obtain ⟨hrouter', hengine', hmisuse'⟩ := g.follows_declareAll
        (g.declare r e item).router (g.declare r e item).engine rest
      refine ⟨hrouter', hengine', hmisuse'.trans ?_⟩
      dsimp only
      cases (g.declareAll (g.declare r e item).router (g.declare r e item).engine rest).result <;>
        rfl

end

end Group

/-- A group that is declared on a router leaves what its registrations leave, one after another. -/
theorem Router.follows_addGroup {E : Type} [RouteHost E] (r : Router) (e : E) (base : String)
    (stages : List Middleware) (items : List Declaration) :
    let series := r.addAll e ((Group.outermost base stages).listedAll items)
    (r.addGroup e base stages items).router = series.router ∧
      (r.addGroup e base stages items).engine = series.engine := by
  unfold addGroup allow
  by_cases hphase : r.phase = .building
  · obtain ⟨hrouter, hengine, _⟩ := (Group.outermost base stages).follows_declareAll r e items
    rw [if_pos hphase]
    exact ⟨hrouter, hengine⟩
  · obtain ⟨hrouter, hengine, _⟩ :=
      addAll_of_phase hphase e ((Group.outermost base stages).listedAll items)
    rw [if_neg hphase]
    exact ⟨hrouter.symm, hengine.symm⟩

end RequestBridge
