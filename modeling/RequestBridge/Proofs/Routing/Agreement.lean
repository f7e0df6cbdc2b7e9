import RequestBridge.Proofs.Engine.Alike
import RequestBridge.Proofs.Routing.Phases
import RequestBridge.Proofs.Text.Utf8

/-! The two sides of a router.

A router keeps its routes by their numbers, and its engine keeps what it was told of them. The two
sides are changed one after the other, with a call between them that may be refused. They agree
all the same after whatever is done, on every engine that keeps books of what it accepts
(`tables_agree`): a number that the engine knows always leads to the route it was given to. -/
namespace RequestBridge

/-- The books of an engine: the routes of each table, to which a registration adds the route if it
is accepted, and nothing if it is refused. -/
structure Books (E : Type) [RouteHost E] where
  table : E → Address → List KnownRoute
  accepted : ∀ {e e' : E} {t : Address} {method : Method} {pattern : String} {id : UInt16},
    RouteHost.registerRoute e t method (Utf8.encode pattern) id = (e', 0) →
      table e' t = table e t ++ [⟨t, method, pattern, id⟩]
  refused : ∀ {e e' : E} {t : Address} {method : Method} {pattern : String} {id : UInt16}
    {code : Int}, RouteHost.registerRoute e t method (Utf8.encode pattern) id = (e', code) →
      code ≠ 0 → table e' t = table e t

/-- The books that the engine of a bridge keeps. -/
def Engine.books : Books Engine where
  table := Engine.routesOf
  accepted := by
    intro e e' t method pattern id h
    change e.registerRoute t method (Utf8.encode pattern) id = (e', 0) at h
    rw [Engine.registerRoute_eq, Utf8.decode?_encode] at h
    obtain ⟨he, hcode⟩ := Prod.mk.inj h
    rw [if_pos hcode] at he
    rw [← he]
    simp [Engine.routesOf, Engine.routes]
  refused := by
    intro e e' t method pattern id code h hcode
    change e.registerRoute t method (Utf8.encode pattern) id = (e', code) at h
    rw [Engine.registerRoute_eq] at h
    obtain ⟨he, rfl⟩ := Prod.mk.inj h
    rw [if_neg hcode] at he
    rw [← he]
    rfl

/-- What an engine knows of a table whose routes were registered in this order. -/
def Registration.listing (table : Address) (xs : List Registration) : List KnownRoute :=
  xs.mapIdx fun i x => ⟨table, .get, x.pattern, UInt16.ofNat i⟩

variable {E : Type} [RouteHost E] {books : Books E} {table : Address}

/-- A router and an engine that agree on the registrations that were accepted, in order. -/
structure Agrees (books : Books E) (table : Address) (x : Router × E) (taken : List Registration) :
    Prop where
  told : books.table x.2 table = Registration.listing table taken
  routes : x.1.registry.routes = taken.map (·.route)
  room : taken.length ≤ maxRoutes
  table : x.1.table = table
  sound : x.1.Sound

namespace Agrees
variable {r : Router} {e : E} {taken : List Registration}

theorem new (hempty : books.table e table = []) : Agrees books table ({ table }, e) [] :=
  ⟨hempty, rfl, Nat.zero_le _, rfl, Router.sound_new table⟩

theorem count (h : Agrees books table (r, e) taken) : r.registry.count = taken.length := by
  rw [← r.registry.length_routes, h.routes, List.length_map]

/-- Each number leads to the registration that it was given to, and to nothing if it was given to
none. -/
theorem route? (h : Agrees books table (r, e) taken) (id : UInt16) :
    r.registry.route? id = taken[id.toNat]?.map (·.route) := by
  rw [Registry.route?_eq, h.routes, List.getElem?_map]

/-- What is not about routes leaves the agreement. -/
theorem keep (h : Agrees books table (r, e) taken) {r' : Router} {e' : E}
    (htold : books.table e' table = books.table e table)
    (hroutes : r'.registry.routes = r.registry.routes) (hsteps : r.Steps r') :
    Agrees books table (r', e') taken :=
  ⟨htold.trans h.told, hroutes.trans h.routes, h.room, hsteps.table.trans h.table,
    hsteps.sound h.sound⟩

/-- A route that is accepted has the next number on both sides. One that is not accepted leaves
both sides as they were. -/
theorem addRoute (h : Agrees books table (r, e) taken) (path : String) (route : Route) :
    let added := r.addRoute e .get path route
    (∃ misuse, added.result = .error misuse ∧ added.router = r ∧
      books.table added.engine table = books.table e table) ∨
    ∃ id, added.result = .ok id ∧ id.toNat = taken.length ∧
      Agrees books table (added.router, added.engine) (taken ++ [⟨path, route⟩]) := by
  have hgrows := r.grows_addRoute e .get path route
  rcases r.addRoute_cases e .get path route with
    ⟨misuse, _, hadd⟩ | ⟨id, e', hnext, htold, hadd⟩ | ⟨id, e', code, _, htold, hcode, hadd⟩
  · rw [hadd]
    exact .inl ⟨misuse, rfl, rfl, rfl⟩
  · right
    rw [hadd] at hgrows ⊢
    rw [h.table] at htold
    obtain ⟨_, _, hroom, hid⟩ := Router.nextRoute_eq_ok hnext
    rw [h.count] at hroom hid
    refine ⟨id, rfl, ?_, ?_, ?_, ?_, h.table, hgrows.steps.sound h.sound⟩
    · rw [hid, UInt16.toNat_ofNat']
      unfold maxRoutes at hroom
      omega
    · have hlast : Registration.listing table (taken ++ [⟨path, route⟩]) =
          Registration.listing table taken ++ [⟨table, .get, Path.join "" path, id⟩] := by
        rw [Registration.listing, List.mapIdx_append, hid]
        simp [Registration.listing, Registration.pattern]
      rw [hlast, ← h.told]
      exact books.accepted htold
    · show (r.registry.push route).routes = _
      rw [Registry.routes_push, h.routes, List.map_append]
      rfl
    · rw [List.length_append]
      exact hroom
  · rw [hadd]
    rw [h.table] at htold
    exact .inl ⟨_, rfl, rfl, books.refused htold hcode⟩

/-- A series of registrations adds what it takes, on both sides. -/
theorem addAll (h : Agrees books table (r, e) taken) (xs : List Registration) :
    let series := r.addAll e xs
    Agrees books table (series.router, series.engine) (taken ++ series.taken) := by
  induction xs generalizing r e taken with
  | nil =>
    rw [Router.addAll]
    dsimp only
    rw [List.append_nil]
    exact h
  | cons x rest ih =>
    rw [Router.addAll]
    dsimp only
    rcases h.addRoute x.path x.route with ⟨misuse, hresult, hrouter, htold⟩ | ⟨id, hresult, _, h'⟩
    · rw [hresult, hrouter]
      dsimp only
      rw [List.append_nil]
      exact h.keep htold rfl (.refl r)
    · rw [hresult]
      have hrest := ih h'
      dsimp only at hrest
      rw [List.append_assoc] at hrest
      exact hrest

end Agrees

/-! ### Whatever is done -/

/-- What may be done to a router and to its engine. A start that fails is made of several deeds: the
phase begins to start, the engine does what it does about servers, and the phase goes back. -/
inductive Deed (books : Books E) (table : Address) where
  | addStage (stage : Middleware)
  | addRoute (path : String) (route : Route)
  /-- A route below a group, however deep the group lies. -/
  | addBelow (group : Group) (path : String) (route : Route)
  /-- A whole group, with all that is below it. -/
  | addGroup (base : String) (stages : List Middleware) (items : List Declaration)
  | changePhase (transition : Transition)
  /-- All else that becomes of the engine. It leaves the routes of the table. -/
  | elsewhere (act : { act : E → E // ∀ e, books.table (act e) table = books.table e table })

namespace Deed

/-- The router and the engine afterwards. -/
def perform (x : Router × E) : Deed books table → Router × E
  | addStage stage => ((x.1.addStage stage).toOption.getD x.1, x.2)
  | addRoute path route =>
    let added := x.1.addRoute x.2 .get path route
    (added.router, added.engine)
  | addBelow group path route =>
    let added := group.addRoute x.1 x.2 path route
    (added.router, added.engine)
  | addGroup base stages items =>
    let walk := x.1.addGroup x.2 base stages items
    (walk.router, walk.engine)
  | changePhase transition => ((x.1.change transition).toOption.getD x.1, x.2)
  | elsewhere act => (x.1, act.1 x.2)

def run (x : Router × E) : List (Deed books table) → Router × E
  | [] => x
  | d :: rest => run (d.perform x) rest

/-- The registrations that it stands for, in order. -/
def registrations : Deed books table → List Registration
  | addRoute path route => [⟨path, route⟩]
  | addBelow group path route => [group.registration path route]
  | addGroup base stages items => (Group.outermost base stages).listedAll items
  | _ => []

/-- The registrations that are accepted, in order. -/
def takenIn (x : Router × E) : List (Deed books table) → List Registration
  | [] => []
  | d :: rest => (x.1.addAll x.2 d.registrations).taken ++ takenIn (d.perform x) rest

end Deed

namespace Agrees
variable {x : Router × E} {taken : List Registration}

theorem addOne (h : Agrees books table x taken) (reg : Registration) :
    let added := x.1.addRoute x.2 .get reg.path reg.route
    Agrees books table (added.router, added.engine) (taken ++ (x.1.addAll x.2 [reg]).taken) := by
  have hall := h.addAll [reg]
  rw [Router.addAll] at hall ⊢
  dsimp only at hall ⊢
  cases hresult : (x.1.addRoute x.2 .get reg.path reg.route).result <;> rw [hresult] at hall <;>
    exact hall

theorem keep_getD (h : Agrees books table x taken) {result : Except Misuse Router}
    (hresult : ∀ r', result = .ok r' →
      r'.registry.routes = x.1.registry.routes ∧ x.1.Steps r') :
    Agrees books table (result.toOption.getD x.1, x.2) taken := by
  cases result with
  | error misuse => exact h
  | ok r' =>
    obtain ⟨hroutes, hsteps⟩ := hresult r' rfl
    exact h.keep rfl hroutes hsteps

theorem perform (h : Agrees books table x taken) (d : Deed books table) :
    Agrees books table (d.perform x) (taken ++ (x.1.addAll x.2 d.registrations).taken) := by
  have hnone : ∀ x', Agrees books table x' taken → Agrees books table x' (taken ++ []) := by
    intro x' h'
    rwa [List.append_nil]
  cases d with
  | addStage stage =>
    refine hnone _ (h.keep_getD ?_)
    intro r' hadd
    obtain ⟨_, rfl⟩ := Router.addStage_eq_ok hadd
    exact ⟨rfl, (Router.grows_addStage hadd).steps⟩
  | addRoute path route => exact h.addOne ⟨path, route⟩
  | addBelow group path route => exact h.addOne (group.registration path route)
  | addGroup base stages items =>
    obtain ⟨hrouter, hengine⟩ := x.1.follows_addGroup x.2 base stages items
    show Agrees books table ((x.1.addGroup x.2 base stages items).router,
      (x.1.addGroup x.2 base stages items).engine) _
    rw [hrouter, hengine]
    exact h.addAll _
  | changePhase transition =>
    refine hnone _ (h.keep_getD ?_)
    intro r' hchange
    obtain ⟨_, rfl⟩ := Router.change_eq_ok hchange
    exact ⟨by cases transition <;> rfl, .inr ⟨transition, hchange⟩⟩
  | elsewhere act => exact hnone _ (h.keep (act.2 x.2) rfl (.refl x.1))

theorem run (h : Agrees books table x taken) (ds : List (Deed books table)) :
    Agrees books table (Deed.run x ds) (taken ++ Deed.takenIn x ds) := by
  induction ds generalizing x taken with
  | nil =>
    rw [Deed.takenIn, List.append_nil]
    exact h
  | cons d rest ih =>
    rw [Deed.takenIn, ← List.append_assoc]
    exact ih (h.perform d)

end Agrees
/-- A router and its engine agree whatever is done to them, at every engine that keeps books. The
numbers of the routes are those of the accepted registrations, counted from zero, and a number
never leads to another route later. A route that the engine refuses is on neither side, and its
number goes to the next one that is accepted. Once all numbers are given away the engine is told
of no more routes. -/
theorem tables_agree (books : Books E) (table : Address) (e : E)
    (hempty : books.table e table = []) (ds : List (Deed books table)) :
    let x := Deed.run ({ table }, e) ds
    let taken := Deed.takenIn ({ table }, e) ds
    (books.table x.2 table = Registration.listing table taken ∧
      x.1.registry.count = taken.length ∧ taken.length ≤ maxRoutes ∧
      ∀ id, x.1.registry.route? id = taken[id.toNat]?.map (·.route)) ∧
    (∀ (more : List (Deed books table)) id route, x.1.registry.route? id = some route →
      (Deed.run x more).1.registry.route? id = some route) ∧
    ∀ path route,
      let added := x.1.addRoute x.2 .get path route
      (∀ id, added.result = .ok id → id.toNat = taken.length) ∧
      (∀ misuse, added.result = .error misuse →
        added.router = x.1 ∧ books.table added.engine table = books.table x.2 table) ∧
      (x.1.phase = .building →
        let told := RouteHost.registerRoute x.2 table .get (Utf8.encode (Path.join "" path))
          (UInt16.ofNat taken.length)
        if maxRoutes ≤ taken.length then
          added = ⟨x.1, x.2, .error (.outOfRoutes taken.length), []⟩
        else if told.2 = 0 then
          added.result = .ok (UInt16.ofNat taken.length) ∧ added.engine = told.1
        else added = ⟨x.1, told.1, .error (.refused .get (Path.join "" path) told.2), []⟩) := by
  have h : Agrees books table (Deed.run ({ table }, e) ds) (Deed.takenIn ({ table }, e) ds) :=
    (Agrees.new hempty).run ds
  dsimp only
  generalize Deed.run ({ table }, e) ds = x at h
  generalize Deed.takenIn ({ table }, e) ds = taken at h
  refine ⟨⟨h.told, h.count, h.room, h.route?⟩, ?_, ?_⟩
  · intro more id route hroute
    have hlater := (h.run more).route? id
    rw [h.route?] at hroute
    rw [hlater]
    obtain ⟨reg, hreg, rfl⟩ := Option.map_eq_some_iff.mp hroute
    have hlt := (List.getElem?_eq_some_iff.mp hreg).1
    rw [List.getElem?_append_left hlt, hreg]
    rfl
  · intro path route
    refine ⟨?_, ?_, ?_⟩
    · intro id hid
      rcases h.addRoute path route with ⟨misuse, hresult, _⟩ | ⟨id', hresult, hnat, _⟩
      · cases hid.symm.trans hresult
      · cases hid.symm.trans hresult
        exact hnat
    · intro misuse hmisuse
      rcases h.addRoute path route with ⟨_, _, hsame⟩ | ⟨id, hresult, _⟩
      · exact hsame
      · cases hmisuse.symm.trans hresult
    · intro hphase
      have hnext := Router.nextRoute_eq hphase (h.sound.open hphase)
      rw [h.count] at hnext
      unfold Router.addRoute
      rw [hnext, h.table]
      split
      · rfl
      · dsimp only
        split
        · exact ⟨rfl, rfl⟩
        · rfl

/-- An engine with one table, and what is done to it: a route is refused and another one comes
while a start is under way, and neither takes a number. -/
def refusing : List (Deed Engine.books 16) :=
  let route : Route := ⟨[], fun request => .done (.ok ⟨200, request.body⟩)⟩
  [.addRoute "a/" route,
    .elsewhere ⟨fun e => { e with refusing := 7 }, fun _ => rfl⟩,
    .addRoute "b" route,
    .elsewhere ⟨fun e => { e with refusing := 0 }, fun _ => rfl⟩,
    .changePhase .begin,
    .addBelow (.outermost "api" []) "late" route,
    .changePhase .rollback,
    .addGroup "api" [] [.route "c" route, .group "v2" [] [.route "" route]]]

theorem refused_routes_take_no_number :
    let e := (Engine.new .memory).createTable.1
    let x := Deed.run ({ table := 16 }, e) refusing
    Engine.books.table e 16 = [] ∧
      Engine.books.table x.2 16 =
        [⟨16, .get, "/a", 0⟩, ⟨16, .get, "/api/c", 1⟩, ⟨16, .get, "/api/v2", 2⟩] ∧
      x.1.registry.count = 3 ∧ x.1.registry.route? 3 = none := by
  have hempty : Engine.books.table (Engine.new .memory).createTable.1 16 = [] := by decide
  have hagree := (tables_agree Engine.books 16 _ hempty refusing).1
  dsimp only at hagree ⊢
  obtain ⟨htold, hcount, _, hfound⟩ := hagree
  rw [htold, hcount, hfound]
  refine ⟨hempty, by decide +kernel, by decide +kernel, ?_⟩
  rw [Option.map_eq_none_iff, List.getElem?_eq_none_iff]
  decide +kernel

end RequestBridge
