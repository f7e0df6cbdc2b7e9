import RequestBridge.Chain.Stages
import RequestBridge.Proofs.Path.Normal
import RequestBridge.Proofs.Routing.Agreement

/-! Trees of groups as lists of routes.

A tree of groups has its routes from left to right. Each of them lies below the paths of the groups
around it, and behind their stages. To declare the tree is to add these routes to the router, one
after another, as if there were no groups (`Router.trees_flatten`). -/
namespace RequestBridge

/-- A route of a tree, with the paths that lead to it, from the outermost one to its own, and with
all the stages around it. -/
structure Leaf where
  paths : List String
  route : Route

namespace Leaf

def pattern (l : Leaf) : String := String.ofList (Path.normal (l.paths.map String.toList))

/-- The route in one more group. -/
def below (base : String) (stages : List Middleware) (l : Leaf) : Leaf :=
  ⟨base :: l.paths, { l.route with stages := stages ++ l.route.stages }⟩

/-- The route as it is declared without groups. -/
def declaration (l : Leaf) : Declaration := .route l.pattern l.route

theorem join_pattern (l : Leaf) : Path.join "" l.pattern = l.pattern := by
  show String.ofList (Path.normal [[], (String.ofList (Path.normal _)).toList]) = _
  rw [String.toList_ofList, Path.normal_nil_cons, Path.normal_normal, List.append_nil]
  rfl

end Leaf

mutual

/-- The routes of a declaration, from left to right. -/
def Declaration.leaves : Declaration → List Leaf
  | .route path own => [⟨[path], own⟩]
  | .group base stages items => (leavesAll items).map (Leaf.below base stages)

def Declaration.leavesAll : List Declaration → List Leaf
  | [] => []
  | item :: rest => item.leaves ++ leavesAll rest

end

mutual

/-- The numbers that the routes of a declaration got, from left to right. -/
def Declared.ids : Declared → List UInt16
  | .route id => [id]
  | .group _ items => idsAll items

def Declared.idsAll : List Declared → List UInt16
  | [] => []
  | item :: rest => item.ids ++ idsAll rest

end

theorem Declared.idsAll_append (xs ys : List Declared) :
    idsAll (xs ++ ys) = idsAll xs ++ idsAll ys := by
  induction xs with
  | nil => rfl
  | cons x rest ih => rw [List.cons_append, idsAll, idsAll, ih, List.append_assoc]

theorem Declared.map_idsAll_append (xs : List Declared) (result : Except Misuse (List Declared)) :
    (result.map fun ys => xs ++ ys).map idsAll =
      (result.map idsAll).map fun ids => idsAll xs ++ ids := by
  cases result with
  | error misuse => rfl
  | ok ys => exact congrArg Except.ok (idsAll_append xs ys)

theorem Declared.idsAll_group (g : Group) (items : List Declared) :
    idsAll [.group g items] = idsAll items := by
  rw [idsAll, idsAll, List.append_nil, ids]

namespace Group.Walk
variable {E : Type}

/-- A walk and what comes after it, unless it ends with a misuse. -/
def followed (first : Walk E) (next : Router → E → Walk E) : Walk E :=
  match first.result with
  | .error misuse => { first with result := .error misuse }
  | .ok declared =>
    let walk := next first.router first.engine
    { walk with
      result := walk.result.map fun more => declared ++ more
      events := first.events ++ walk.events }

theorem followed_assoc (first : Walk E) (next last : Router → E → Walk E) :
    (first.followed next).followed last = first.followed fun r e => (next r e).followed last := by
  obtain ⟨r, e, result, events⟩ := first
  cases result with
  | error misuse => rfl
  | ok declared =>
    dsimp only [followed]
    obtain ⟨r', e', result', events'⟩ := next r e
    cases result' with
    | error misuse => rfl
    | ok declared' =>
      dsimp only [Except.map]
      obtain ⟨r'', e'', result'', events''⟩ := last r' e'
      cases result'' <;> simp

theorem followed_none (first : Walk E) :
    first.followed (fun r e => ⟨r, e, .ok [], []⟩) = first := by
  obtain ⟨r, e, result, events⟩ := first
  cases result <;> simp [followed, Except.map]

theorem none_followed (r : Router) (e : E) (next : Router → E → Walk E) :
    (⟨r, e, .ok [], []⟩ : Walk E).followed next = next r e := by
  unfold followed
  dsimp only
  obtain ⟨r', e', result, events⟩ := next r e
  cases result <;> rfl

/-- Walks that cannot be told apart but by the groups that routes were declared in. -/
structure Same (w w' : Walk E) : Prop where
  router : w.router = w'.router
  engine : w.engine = w'.engine
  result : w.result.map Declared.idsAll = w'.result.map Declared.idsAll
  events : w.events = w'.events

theorem Same.refl (w : Walk E) : Same w w := ⟨rfl, rfl, rfl, rfl⟩

theorem Same.trans {w w' w'' : Walk E} (h : Same w w') (h' : Same w' w'') : Same w w'' :=
  ⟨h.router.trans h'.router, h.engine.trans h'.engine, h.result.trans h'.result,
    h.events.trans h'.events⟩

theorem same_inGroup (w : Walk E) (g : Group) :
    Same { w with result := w.result.map fun items => [.group g items] } w := by
  refine ⟨rfl, rfl, ?_, rfl⟩
  dsimp only
  cases w.result with
  | error misuse => rfl
  | ok declared => exact congrArg Except.ok (Declared.idsAll_group g declared)

theorem Same.followed {w w' : Walk E} {next next' : Router → E → Walk E} (h : Same w w')
    (hnext : Same (next w.router w.engine) (next' w.router w.engine)) :
    Same (w.followed next) (w'.followed next') := by
  obtain ⟨r, e, result, events⟩ := w
  obtain ⟨_, _, result', _⟩ := w'
  obtain ⟨rfl, rfl, hresult, rfl⟩ := h
  dsimp only at hnext hresult
  cases result with
  | error misuse =>
    cases result' with
    | error misuse' =>
      cases hresult
      exact .refl _
    | ok declared' => cases hresult
  | ok declared =>
    cases result' with
    | error misuse' => cases hresult
    | ok declared' =>
      have hids : Declared.idsAll declared = Declared.idsAll declared' := Except.ok.inj hresult
      dsimp only [Walk.followed]
      refine ⟨hnext.router, hnext.engine, ?_, congrArg (events ++ ·) hnext.events⟩
      have hmore := hnext.result
      dsimp only
      rw [Declared.map_idsAll_append, Declared.map_idsAll_append, hmore, hids]

end Group.Walk

namespace Router
variable {E : Type} [RouteHost E]
open Group.Walk

/-- Declares one thing on a router. -/
def declare (r : Router) (e : E) : Declaration → Group.Walk E
  | .route path route =>
    let added := r.addRoute e .get path route
    ⟨added.router, added.engine, added.result.map fun id => [.route id], added.events⟩
  | .group base stages items => r.addGroup e base stages items

/-- Declares things on a router from first to last, up to the first misuse. -/
def declareAll (r : Router) (e : E) : List Declaration → Group.Walk E
  | [] => ⟨r, e, .ok [], []⟩
  | item :: rest => (r.declare e item).followed fun r e => r.declareAll e rest

theorem declareAll_append (r : Router) (e : E) (xs ys : List Declaration) :
    r.declareAll e (xs ++ ys) = (r.declareAll e xs).followed fun r e => r.declareAll e ys := by
  induction xs generalizing r e with
  | nil => exact (none_followed r e fun r e => r.declareAll e ys).symm
  | cons x rest ih =>
    rw [List.cons_append, declareAll, declareAll, followed_assoc]
    exact congrArg _ (funext fun r => funext fun e => ih r e)

/-! ### The tree and its routes -/

/-- What a router does with routes, one after another. -/
def addLeaves (r : Router) (e : E) (leaves : List Leaf) : Group.Walk E :=
  r.declareAll e (leaves.map Leaf.declaration)

theorem addLeaves_append (r : Router) (e : E) (ls more : List Leaf) :
    r.addLeaves e (ls ++ more) = (r.addLeaves e ls).followed fun r e => r.addLeaves e more := by
  rw [addLeaves, List.map_append, declareAll_append]
  rfl

theorem addLeaves_singleton (r : Router) (e : E) (l : Leaf) :
    r.addLeaves e [l] = r.declare e l.declaration :=
  followed_none _

end Router

namespace Group
variable {E : Type} [RouteHost E]
open Walk

theorem declareAll_cons (g : Group) (r : Router) (e : E) (item : Declaration)
    (rest : List Declaration) :
    g.declareAll r e (item :: rest) =
      (g.declare r e item).followed fun r e => g.declareAll r e rest := by
  rw [declareAll]
  rfl

/-- A route of a tree below a group that is in its place. -/
def placed (g : Group) : Leaf → Leaf := Leaf.below g.base g.stages

/-- Two groups around a route are one group, with one path and all the stages. -/
theorem declaration_placed_nested (g : Group) (base : String) (stages : List Middleware)
    (l : Leaf) :
    ((g.nested base stages).placed l).declaration =
      (g.placed (l.below base stages)).declaration := by
  have hpattern : ((g.nested base stages).placed l).pattern =
      (g.placed (l.below base stages)).pattern := by
    show String.ofList
      (Path.normal ((Path.join g.base base).toList :: l.paths.map String.toList)) = _
    rw [Path.toList_join, Path.normal_normal]
    rfl
  unfold Leaf.declaration
  rw [hpattern]
  show Declaration.route _ { l.route with stages := (g.stages ++ stages) ++ l.route.stages } = _
  rw [List.append_assoc]
  rfl

theorem addLeaves_nested (g : Group) (base : String) (stages : List Middleware) (r : Router) (e : E)
    (ls : List Leaf) :
    r.addLeaves e (ls.map (g.nested base stages).placed) =
      r.addLeaves e ((ls.map (Leaf.below base stages)).map g.placed) := by
  unfold Router.addLeaves
  rw [List.map_map, List.map_map, List.map_map]
  exact congrArg (r.declareAll e)
    (List.map_congr_left fun l _ => g.declaration_placed_nested base stages l)

mutual

theorem same_declare (g : Group) (r : Router) (e : E) :
    ∀ item, (g.declare r e item).Same (r.addLeaves e (item.leaves.map g.placed))
  | .route path route => by
    rw [declare, Declaration.leaves, List.map_singleton, Router.addLeaves_singleton]
    exact .refl _
  | .group base stages items => by
    have hinner := (g.nested base stages).same_declareAll r e items
    rw [g.addLeaves_nested] at hinner
    rw [declare, Declaration.leaves]
    exact (same_inGroup _ _).trans hinner

theorem same_declareAll (g : Group) (r : Router) (e : E) :
    ∀ items,
      (g.declareAll r e items).Same (r.addLeaves e ((Declaration.leavesAll items).map g.placed))
  | [] => by
    rw [declareAll]
    exact .refl _
  | item :: rest => by
    rw [Declaration.leavesAll, List.map_append, Router.addLeaves_append, declareAll_cons]
    exact (g.same_declare r e item).followed (g.same_declareAll _ _ rest)

end

end Group

/-! ### Trees on a router -/

namespace Router
variable {E : Type} [RouteHost E]
open Group.Walk

theorem placed_outermost (base : String) (stages : List Middleware) (l : Leaf) :
    ((Group.outermost base stages).placed l).declaration = (l.below base stages).declaration := by
  have hpattern : ((Group.outermost base stages).placed l).pattern =
      (l.below base stages).pattern := by
    show String.ofList (Path.normal ((Path.join "" base).toList :: l.paths.map String.toList)) = _
    rw [Path.toList_join, Path.normal_normal]
    rfl
  unfold Leaf.declaration
  rw [hpattern]
  rfl

theorem same_addGroup {r : Router} (hphase : r.phase = .building) (e : E) (base : String)
    (stages : List Middleware) (items : List Declaration) :
    (r.addGroup e base stages items).Same
      (r.addLeaves e (Declaration.group base stages items).leaves) := by
  have hinner := (Group.outermost base stages).same_declareAll r e items
  have hsame :
      r.addLeaves e ((Declaration.leavesAll items).map (Group.outermost base stages).placed) =
      r.addLeaves e (Declaration.group base stages items).leaves := by
    unfold addLeaves
    rw [Declaration.leaves, List.map_map, List.map_map]
    exact congrArg (r.declareAll e)
      (List.map_congr_left fun l _ => placed_outermost base stages l)
  rw [hsame] at hinner
  unfold addGroup allow
  rw [if_pos hphase]
  exact (same_inGroup _ _).trans hinner

theorem addRoute_of_join {path path' : String} (h : Path.join "" path = Path.join "" path')
    (r : Router) (e : E) (method : Method) (route : Route) :
    r.addRoute e method path route = r.addRoute e method path' route := by
  unfold addRoute
  rw [h]

theorem declare_leaf (r : Router) (e : E) (path : String) (route : Route) :
    r.declare e (.route path route) = r.declare e (Leaf.mk [path] route).declaration := by
  have hpattern : Path.join "" path = Path.join "" (Leaf.mk [path] route).pattern :=
    (Leaf.mk [path] route).join_pattern.symm
  unfold Leaf.declaration declare
  dsimp only
  rw [addRoute_of_join hpattern]

theorem same_declare {r : Router} (hphase : r.phase = .building) (e : E) (item : Declaration) :
    (r.declare e item).Same (r.addLeaves e item.leaves) := by
  cases item with
  | route path route =>
    rw [declare_leaf, Declaration.leaves, addLeaves_singleton]
    exact .refl _
  | group base stages items => exact same_addGroup hphase e base stages items

theorem grows_declare (r : Router) (e : E) (item : Declaration) :
    Grows r (r.declare e item).router := by
  cases item with
  | route path route => exact r.grows_addRoute e .get path route
  | group base stages items => exact r.grows_addGroup e base stages items

theorem Grows.building {r r' : Router} (h : Grows r r') (hphase : r.phase = .building) :
    r'.phase = .building := by
  rcases h with rfl | ⟨_, hphase', _⟩
  · exact hphase
  · exact hphase'

theorem same_declareAll {r : Router} (hphase : r.phase = .building) (e : E)
    (items : List Declaration) :
    (r.declareAll e items).Same (r.addLeaves e (Declaration.leavesAll items)) := by
  induction items generalizing r e with
  | nil => exact .refl _
  | cons item rest ih =>
    rw [Declaration.leavesAll, addLeaves_append, declareAll]
    exact (same_declare hphase e item).followed (ih ((r.grows_declare e item).building hphase) _)

/-! ### Which routes are there afterwards -/

/-- What is left of routes of which the router and the engine have accepted the first so many: both
have these, with the numbers that come next, and what came after them has left no trace on the
router. -/
structure Accepts (books : Books E) (r : Router) (e : E) (ls : List Leaf) (k : Nat)
    (walk : Group.Walk E) : Prop where
  le : k ≤ ls.length
  room : 0 < k → r.registry.count + k ≤ maxRoutes
  router : walk.router =
    { r with registry := ((ls.take k).map (·.route)).foldl Registry.push r.registry }
  told : books.table walk.engine r.table = books.table e r.table ++
    (ls.take k).mapIdx fun i l =>
      ⟨r.table, .get, l.pattern, UInt16.ofNat (r.registry.count + i)⟩
  events : walk.events = (ls.take k).mapIdx fun i l =>
    registeredEvent .get l.pattern (UInt16.ofNat (r.registry.count + i))
  ended : match walk.result.map Declared.idsAll with
    | .ok ids => k = ls.length ∧
        ids = (List.range k).map fun i => UInt16.ofNat (r.registry.count + i)
    | .error misuse => ∃ l, ls[k]? = some l ∧
        ((maxRoutes ≤ r.registry.count + k ∧ misuse = .outOfRoutes (r.registry.count + k)) ∨
          ∃ code, code ≠ 0 ∧ misuse = .refused .get l.pattern code ∧
            RouteHost.registerRoute (r.addLeaves e (ls.take k)).engine r.table .get
              (Utf8.encode l.pattern) (UInt16.ofNat (r.registry.count + k)) = (walk.engine, code))

/-- A leaf that gets a number is announced under its pattern, and kept if it is accepted. -/
theorem declare_declaration {r : Router} (hphase : r.phase = .building)
    (hopen : r.registry.isSealed = false) (e : E) (l : Leaf) :
    r.declare e l.declaration =
      if maxRoutes ≤ r.registry.count then ⟨r, e, .error (.outOfRoutes r.registry.count), []⟩
      else
        let id := UInt16.ofNat r.registry.count
        let told := RouteHost.registerRoute e r.table .get (Utf8.encode l.pattern) id
        if told.2 = 0 then
          ⟨{ r with registry := r.registry.push l.route }, told.1, .ok [.route id],
            [registeredEvent .get l.pattern id]⟩
        else ⟨r, told.1, .error (.refused .get l.pattern told.2), []⟩ := by
  unfold Leaf.declaration declare addRoute
  dsimp only
  rw [nextRoute_eq hphase hopen, l.join_pattern]
  by_cases hfull : maxRoutes ≤ r.registry.count
  · rw [if_pos hfull, if_pos hfull]
    rfl
  · rw [if_neg hfull, if_neg hfull]
    dsimp only
    split <;> rfl

/-- A walk that ends before the first route. -/
theorem Accepts.none {books : Books E} {r : Router} {e e' : E} {l : Leaf} {rest : List Leaf}
    {misuse : Misuse} (htold : books.table e' r.table = books.table e r.table)
    (hmisuse : (maxRoutes ≤ r.registry.count ∧ misuse = .outOfRoutes r.registry.count) ∨
      ∃ code, code ≠ 0 ∧ misuse = .refused .get l.pattern code ∧
        RouteHost.registerRoute e r.table .get (Utf8.encode l.pattern)
          (UInt16.ofNat r.registry.count) = (e', code)) :
    Accepts books r e (l :: rest) 0 ⟨r, e', .error misuse, []⟩ where
  le := Nat.zero_le _
  room := nofun
  router := rfl
  told := htold.trans (List.append_nil _).symm
  events := rfl
  ended := ⟨l, rfl, hmisuse⟩

/-- One more route in front, which is accepted. -/
theorem Accepts.cons {books : Books E} {r : Router} {e e' : E} {l : Leaf} {rest : List Leaf}
    {k : Nat} (hroom : r.registry.count < maxRoutes)
    (hfirst : r.declare e l.declaration =
      ⟨{ r with registry := r.registry.push l.route }, e',
        .ok [.route (UInt16.ofNat r.registry.count)],
        [registeredEvent .get l.pattern (UInt16.ofNat r.registry.count)]⟩)
    (htold : books.table e' r.table = books.table e r.table ++
      [⟨r.table, .get, l.pattern, UInt16.ofNat r.registry.count⟩])
    (h : Accepts books { r with registry := r.registry.push l.route } e' rest k
      (addLeaves { r with registry := r.registry.push l.route } e' rest)) :
    Accepts books r e (l :: rest) (k + 1) (r.addLeaves e (l :: rest)) := by
  have hcount : ∀ i, (r.registry.push l.route).count + i = r.registry.count + (i + 1) := by
    intro i
    show r.registry.count + 1 + i = _
    rw [Nat.add_assoc, Nat.add_comm 1 i]
  have hwalk : ∀ more, r.addLeaves e (l :: more) =
      (r.declare e l.declaration).followed fun r e => r.addLeaves e more := fun _ => rfl
  obtain ⟨hle, hmore, hrouter, hlisted, hevents, hended⟩ := h
  rw [hwalk, hfirst]
  refine ⟨Nat.succ_le_succ hle, fun _ => ?_, hrouter, ?_, ?_, ?_⟩
  · rcases Nat.eq_zero_or_pos k with rfl | hk
    · exact hroom
    · have := hmore hk
      rw [hcount] at this
      exact this
  · refine hlisted.trans ?_
    rw [htold, List.take_succ_cons, List.mapIdx_cons, List.append_assoc]
    simp only [hcount]
    rfl
  · dsimp only [followed]
    rw [hevents, List.take_succ_cons, List.mapIdx_cons]
    simp only [hcount]
    rfl
  · have heng : (r.addLeaves e ((l :: rest).take (k + 1))).engine =
        (addLeaves { r with registry := r.registry.push l.route } e' (rest.take k)).engine := by
      rw [List.take_succ_cons, hwalk, hfirst]
      rfl
    dsimp only [followed]
    rw [heng]
    generalize addLeaves { r with registry := r.registry.push l.route } e' rest = walk at hended ⊢
    obtain ⟨r', e'', result, events⟩ := walk
    cases result with
    | error misuse =>
      obtain ⟨l', hl', hended⟩ := hended
      rw [hcount] at hended
      exact ⟨l', hl', hended⟩
    | ok declared =>
      obtain ⟨rfl, hids⟩ : _ ∧ Declared.idsAll declared = _ := hended
      refine ⟨rfl, ?_⟩
      show UInt16.ofNat r.registry.count :: Declared.idsAll declared = _
      rw [hids, List.range_succ_eq_map, List.map_cons, List.map_map]
      simp only [hcount]
      rfl

theorem accepts_addLeaves (books : Books E) {r : Router} (hphase : r.phase = .building)
    (hopen : r.registry.isSealed = false) (e : E) (ls : List Leaf) :
    ∃ k, Accepts books r e ls k (r.addLeaves e ls) := by
  induction ls generalizing r e with
  | nil => exact ⟨0, ⟨le_rfl, nofun, rfl, (List.append_nil _).symm, rfl, rfl, rfl⟩⟩
  | cons l rest ih =>
    have hfirst := declare_declaration hphase hopen e l
    have hwalk : r.addLeaves e (l :: rest) =
        (r.declare e l.declaration).followed fun r e => r.addLeaves e rest := rfl
    by_cases hfull : maxRoutes ≤ r.registry.count
    · rw [if_pos hfull] at hfirst
      rw [hwalk, hfirst]
      exact ⟨0, .none rfl (.inl ⟨hfull, rfl⟩)⟩
    · rw [if_neg hfull] at hfirst
      dsimp only at hfirst
      split at hfirst
      · next hcode =>
        obtain ⟨k, h⟩ := ih (r := { r with registry := r.registry.push l.route }) hphase hopen _
        exact ⟨k + 1, .cons (Nat.lt_of_not_le hfull) hfirst (books.accepted (Prod.ext rfl hcode)) h⟩
      · next hcode =>
        rw [hwalk, hfirst]
        exact ⟨0, .none (books.refused rfl hcode) (.inr ⟨_, hcode, rfl, rfl⟩)⟩

theorem Accepts.of_same {books : Books E} {r : Router} {e : E} {ls : List Leaf} {k : Nat}
    {walk walk' : Group.Walk E} (hsame : walk.Same walk') (h : Accepts books r e ls k walk') :
    Accepts books r e ls k walk := by
  obtain ⟨hle, hroom, hrouter, htold, hevents, hended⟩ := h
  obtain ⟨hrouter', hengine', hresult', hevents'⟩ := hsame
  refine ⟨hle, hroom, hrouter'.trans hrouter, by rw [hengine', htold], hevents'.trans hevents, ?_⟩
  rw [hengine', hresult']
  exact hended

/-- A tree of groups on a router that is being built does what its routes do, one after another,
each with its whole pattern and with the stages around it from the outermost group to its own. The
routes before the first one that is not accepted stay, under the numbers that come next. -/
theorem trees_flatten (books : Books E) {r : Router} (hphase : r.phase = .building)
    (hsound : r.Sound) (e : E) (items : List Declaration) :
    let walk := r.declareAll e items
    let leaves := Declaration.leavesAll items
    walk.Same (r.declareAll e (leaves.map fun l => .route l.pattern l.route)) ∧
      ∃ k, Accepts books r e leaves k walk := by
  have hsame := same_declareAll hphase e items
  obtain ⟨k, h⟩ := accepts_addLeaves books hphase (hsound.open hphase) e
    (Declaration.leavesAll items)
  exact ⟨hsame, k, h.of_same hsame⟩

/-- An engine that takes two routes and refuses all others. -/
structure TwoRoutes where
  known : List KnownRoute

instance : RouteHost TwoRoutes where
  registerRoute e table method pattern route :=
    match Utf8.decode? pattern with
    | some pattern =>
      if e.known.length < 2 then (⟨e.known ++ [⟨table, method, pattern, route⟩]⟩, 0) else (e, -3)
    | none => (e, -2)

def TwoRoutes.books : Books TwoRoutes where
  table e table := e.known.filter (·.table == table)
  accepted := by
    intro e e' t method pattern id h
    simp only [RouteHost.registerRoute, Utf8.decode?_encode] at h
    split at h
    · obtain ⟨rfl, _⟩ := Prod.mk.inj h
      simp
    · cases h
  refused := by
    intro e e' t method pattern id code h hcode
    simp only [RouteHost.registerRoute, Utf8.decode?_encode] at h
    split at h
    · exact absurd (Prod.mk.inj h).2.symm hcode
    · rw [(Prod.mk.inj h).1]

/-- A tree with a route that is refused, three groups deep. -/
def grove : List Declaration :=
  let reply : Handler := fun request => .done (.ok ⟨200, request.body⟩)
  [.route "a//" ⟨[.pass "own"], reply⟩,
    .group "/api/" [.pass "outer"] [
      .group "//" [] [.route "" ⟨[], reply⟩],
      .group "v2/x" [.pass "inner"] [.group "" [] [.route "/y/" ⟨[.pass "own"], reply⟩]],
      .route "late" ⟨[], reply⟩]]

theorem third_leaf_of_grove_is_refused :
    let r : Router :=
      { table := 16, registry := ({} : Registry).push ⟨[], fun _ => .panic .mute⟩ }
    let walk := r.declareAll (⟨[]⟩ : TwoRoutes) grove
    (r.phase = .building ∧ r.Sound) ∧
      Accepts TwoRoutes.books r ⟨[]⟩ (Declaration.leavesAll grove) 2 walk ∧
      walk.engine.known = [⟨16, .get, "/a", 1⟩, ⟨16, .get, "/api", 2⟩] ∧
      walk.router.registry.routes.map Route.names = [[], ["own"], ["outer"]] ∧
      ((Declaration.leavesAll grove)[2]?.map fun l => (l.pattern, l.route.names)) =
        some ("/api/v2/x/y", ["outer", "inner", "own"]) := by
  intro r walk
  have hsound : r.Sound := iff_of_false Bool.false_ne_true (fun h => nomatch h)
  have hknown : walk.engine.known = [⟨16, .get, "/a", 1⟩, ⟨16, .get, "/api", 2⟩] := by
    decide +kernel
  obtain ⟨_, k, h⟩ := trees_flatten TwoRoutes.books (r := r) rfl hsound ⟨[]⟩ grove
  have hk : k = 2 := by
    have hlisted := congrArg List.length h.told
    rw [List.length_append, List.length_mapIdx, List.length_take, Nat.min_eq_left h.le] at hlisted
    have hlength : (TwoRoutes.books.table walk.engine 16).length = 2 := by decide +kernel
    exact (Nat.zero_add k).symm.trans (hlisted.symm.trans hlength)
  subst hk
  refine ⟨⟨rfl, hsound⟩, h, hknown, ?_, by decide +kernel⟩
  rw [h.router]
  decide +kernel

end Router
end RequestBridge
