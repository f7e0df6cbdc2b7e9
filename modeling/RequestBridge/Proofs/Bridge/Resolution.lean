import RequestBridge.Proofs.Bridge.Lookups
import RequestBridge.Proofs.Path.Monoid

/-! Paths that lead to routes, and go on leading there.

A route is asked for by the path that was given for it, with the paths of the groups around it in
front (`Move.asked`). All of these are brought to one normal form, by the groups, by the router and
by the engine, and it is the same each time (`map_pattern_registrations`). The engine only ever adds
routes at the end of its list (`known_run`). So where one router has all the routes, a path leads to
the earliest route with its normal form, and once it leads to a route it leads there for good
(`paths_lead_to_earliest_routes`). -/
namespace RequestBridge

/-! ### How routes are asked for -/

mutual

/-- The paths by which the routes of a declaration are asked for, from left to right: the path of
the route itself, and in a group the path of the group joined with it. -/
def Declaration.asked : Declaration → List String
  | .route path _ => [path]
  | .group base _ items => (askedAll items).map (Path.join base)

def Declaration.askedAll : List Declaration → List String
  | [] => []
  | item :: rest => item.asked ++ askedAll rest

end

/-- The paths by which the routes are asked for that a move asks of a router. -/
def Move.asked (r : RouterId) : Move → List String
  | .addRoute r' path _ => if r' = r then [path] else []
  | .addGroup r' base _ items =>
    if r' = r then (Declaration.askedAll items).map (Path.join base) else []
  | _ => []

namespace Group

/-- The normal form of a path below a group. -/
def patternBelow (g : Group) (path : String) : String := Path.join "" (Path.join g.base path)

theorem patternBelow_nested (g : Group) (base : String) (stages : List Middleware) (path : String) :
    (g.nested base stages).patternBelow path = g.patternBelow (Path.join base path) :=
  congrArg (Path.join "") (Path.join_assoc g.base base path)

theorem patternBelow_outermost (base : String) (stages : List Middleware) (path : String) :
    (outermost base stages).patternBelow path = Path.join "" (Path.join base path) := by
  show Path.join "" (Path.join (Path.join "" base) path) = _
  rw [Path.join_assoc, Path.empty_join_join]

mutual

theorem map_pattern_listed (g : Group) :
    ∀ item, (g.listed item).map (·.pattern) = item.asked.map g.patternBelow
  | .route path route => by
    rw [listed, Declaration.asked]
    rfl
  | .group base stages items => by
    rw [listed, map_pattern_listedAll, Declaration.asked, List.map_map]
    exact List.map_congr_left fun path _ => g.patternBelow_nested base stages path

theorem map_pattern_listedAll (g : Group) :
    ∀ items, (g.listedAll items).map (·.pattern) = (Declaration.askedAll items).map g.patternBelow
  | [] => by
    rw [listedAll, Declaration.askedAll]
    rfl
  | item :: rest => by
    rw [listedAll, Declaration.askedAll, List.map_append, List.map_append, map_pattern_listed,
      map_pattern_listedAll]

end

end Group

/-- A route is registered under the normal form of the path by which it is asked for. -/
theorem Move.map_pattern_registrations (r : RouterId) (m : Move) :
    (m.registrations r).map (·.pattern) = (m.asked r).map (Path.join "") := by
  cases m with
  | addRoute r' path route =>
    dsimp only [registrations, asked]
    split <;> rfl
  | addGroup r' base stages items =>
    dsimp only [registrations, asked]
    split
    · rw [Group.map_pattern_listedAll, List.map_map]
      exact List.map_congr_left fun path _ => Group.patternBelow_outermost base stages path
    · rfl
  | _ => rfl

/-- A series takes its registrations from the first on. -/
theorem Router.taken_prefix {E : Type} [RouteHost E] (r : Router) (e : E) (xs : List Registration) :
    (r.addAll e xs).taken <+: xs := by
  induction xs generalizing r e with
  | nil => exact List.prefix_rfl
  | cons x rest ih =>
    rw [addAll]
    dsimp only
    split
    · exact List.nil_prefix
    · exact (List.prefix_cons_inj x).mpr (ih _ _)

/-- A registration has the same pattern as itself or as an earlier one, the earliest with it. -/
theorem Registration.position?_of_getElem? {xs : List Registration} {i : Nat} {x : Registration}
    (h : xs[i]? = some x) :
    ∃ j ≤ i, position? xs x.pattern = some j ∧ xs[j]?.map (·.pattern) = some x.pattern := by
  obtain ⟨hlt, rfl⟩ := List.getElem?_eq_some_iff.mp h
  cases hj : position? xs xs[i].pattern with
  | none =>
    have hnone := List.findIdx?_eq_none_iff.mp hj xs[i] (List.getElem_mem hlt)
    rw [beq_self_eq_true] at hnone
    cases hnone
  | some j =>
    obtain ⟨hroom, hsame, hfirst⟩ := List.findIdx?_eq_some_iff_getElem.mp hj
    refine ⟨j, Nat.le_of_not_lt fun hless => ?_, rfl, ?_⟩
    · exact hfirst i hless (beq_self_eq_true _)
    · rw [List.getElem?_eq_getElem hroom, Option.map_some, beq_iff_eq.mp hsame]

/-! ### Routes that stay -/

/-- A path that leads to a route goes on leading there while routes are added. -/
theorem Engine.resolve_of_known {e e' : Engine} {new : List KnownRoute} {path : String}
    {id : UInt16} (hknown : e'.known = new ++ e.known) (h : e.resolve .get path = some id) :
    e'.resolve .get path = some id := by
  rw [resolve_eq] at h ⊢
  obtain ⟨k, hk, hid⟩ := Option.map_eq_some_iff.mp h
  have hroutes : e'.routes = e.routes ++ new.reverse := by
    rw [routes, hknown, List.reverse_append]
    rfl
  have hfirst : e'.earliest? (Path.join "" path) = some k := by
    unfold earliest? at hk ⊢
    rw [hroutes, List.find?_append, hk]
    rfl
  rw [hfirst]
  exact congrArg some hid

namespace Bridge
variable {b b' : Bridge} {r : RouterId}

theorem known_apply (ho : b.Orderly) (m : Move) :
    ∃ new, (b.apply m).engine.known = new ++ b.engine.known := by
  cases hdeclaring : m.isDeclaring with
  | false => exact ⟨[], (sameRoutes_apply ho hdeclaring).known⟩
  | true =>
    cases m with
    | addRouter =>
      refine ⟨[], ?_⟩
      dsimp only [apply, addRouter]
      rcases b.engine.createTable_cases with hcreate | hcreate <;> rw [hcreate] <;> rfl
    | addRoute r path route =>
      dsimp only [apply, addRoute]
      split
      · next router _ =>
        obtain ⟨_, new, hknown, _⟩ :=
          Router.lasts_hears.addRoute router b.engine .get path route
        exact ⟨new, hknown⟩
      · exact ⟨[], rfl⟩
    | addGroup r base stages items =>
      dsimp only [apply, addGroup]
      split
      · next router _ =>
        obtain ⟨_, new, hknown, _⟩ :=
          Router.lasts_addGroup Router.lasts_hears router b.engine base stages items
        exact ⟨new, hknown⟩
      · exact ⟨[], rfl⟩
    | _ => cases hdeclaring

/-- Whatever comes after a history, the routes that the engine knows stay where they are. -/
theorem known_run (profile : Profile) (h more : List Move) :
    ∃ new, (((Bridge.new profile).run h).run more).engine.known =
      new ++ ((Bridge.new profile).run h).engine.known := by
  induction more using List.reverseRecOn with
  | nil => exact ⟨[], rfl⟩
  | append_singleton more m ih =>
    obtain ⟨new, hnew⟩ := ih
    rw [← run_append] at hnew
    obtain ⟨new', hnew'⟩ := known_apply (orderly_run profile (h ++ more)) m
    refine ⟨new' ++ new, ?_⟩
    rw [run_append, run_cons, run_nil, ← run_append, hnew', hnew, List.append_assoc]

theorem takenIn_append (b : Bridge) (r : RouterId) (h more : List Move) :
    b.takenIn r (h ++ more) = b.takenIn r h ++ (b.run h).takenIn r more := by
  induction h generalizing b with
  | nil => rfl
  | cons m rest ih =>
    show b.taken r m ++ (b.apply m).takenIn r (rest ++ more) = _
    rw [ih, ← List.append_assoc]
    rfl

theorem taken_prefix (b : Bridge) (r : RouterId) (m : Move) :
    b.taken r m <+: m.registrations r := by
  unfold taken
  split
  · next router _ => exact router.taken_prefix b.engine (m.registrations r)
  · exact List.nil_prefix

/-- What is accepted of a move follows what was accepted before it. -/
theorem getElem?_takenIn {before : List Move} {m : Move} {i : Nat} {x : Registration}
    (h : ((b.run before).taken r m)[i]? = some x) (after : List Move) :
    (b.takenIn r (before ++ m :: after))[(b.takenIn r before).length + i]? = some x := by
  have hlt := (List.getElem?_eq_some_iff.mp h).1
  rw [takenIn_append, List.getElem?_append_right (Nat.le_add_right _ i), Nat.add_sub_cancel_left]
  show ((b.run before).taken r m ++ _)[i]? = _
  rw [List.getElem?_append_left hlt, h]

/-- A route that is accepted has the pattern of the path by which it is asked for. -/
theorem pattern_of_taken {m : Move} {i : Nat} {path : String} (hasked : (m.asked r)[i]? = some path)
    (hi : i < (b.taken r m).length) :
    ∃ x, (b.taken r m)[i]? = some x ∧ x.pattern = Path.join "" path := by
  have htaken := List.getElem?_eq_getElem hi
  obtain ⟨rest, hrest⟩ := b.taken_prefix r m
  have hregistered : (m.registrations r)[i]? = some (b.taken r m)[i] := by
    rw [← hrest, List.getElem?_append_left hi, htaken]
  have hpattern := congrArg (·[i]?) (Move.map_pattern_registrations r m)
  rw [List.getElem?_map, List.getElem?_map, hregistered, hasked] at hpattern
  exact ⟨_, htaken, Option.some.inj hpattern⟩

/-- Where one router has all the routes, the engine has the registrations of that router, under
their numbers and in order. -/
theorem Filed.routes_of_alone {listed : RouterId → List Registration} (h : b.Filed listed)
    (halone : ∀ r', r ≠ r' → listed r' = []) :
    ∃ table, b.engine.routes = Registration.listing table (listed r) := by
  have hforeign : ∀ k ∈ b.engine.routes, ∃ routes, b.shelves[r]? = some (k.table, routes) := by
    intro k hk
    obtain ⟨r', routes, hshelf⟩ := h.known k (List.mem_reverse.mp hk)
    by_cases hr : r = r'
    · exact ⟨routes, hr ▸ hshelf⟩
    · have htold := h.told hshelf
      rw [halone r' hr] at htold
      have hmem : k ∈ b.engine.routesOf k.table :=
        List.mem_filter.mpr ⟨hk, beq_self_eq_true _⟩
      rw [htold] at hmem
      cases hmem
  cases hshelf : b.shelves[r]? with
  | none =>
    refine ⟨0, ?_⟩
    rw [h.vacant r (List.getElem?_eq_none_iff.mp hshelf)]
    refine List.eq_nil_iff_forall_not_mem.mpr fun k hk => ?_
    obtain ⟨_, hroutes⟩ := hforeign k hk
    cases hshelf.symm.trans hroutes
  | some shelf =>
    refine ⟨shelf.1, ?_⟩
    rw [← h.told hshelf]
    refine (List.filter_eq_self.mpr fun k hk => ?_).symm
    obtain ⟨_, hroutes⟩ := hforeign k hk
    cases hshelf.symm.trans hroutes
    exact beq_self_eq_true _

/-- Where one router has all the routes, a path leads to the earliest route with its normal form, by
the number that the engine was given for it, and nowhere if there is none. So slashes at the ends of
a path do not matter, and every route that was accepted, in groups or not, is found by its path,
unless an earlier one with the same normal form is. What a path leads to, it leads to whatever
happens later. -/
theorem paths_lead_to_earliest_routes (profile : Profile) (r : RouterId) (h : List Move)
    (halone : ∀ r', r ≠ r' → (Bridge.new profile).takenIn r' h = []) :
    let b := (Bridge.new profile).run h
    let listed := (Bridge.new profile).takenIn r h
    (∃ table, b.engine.routes = Registration.listing table listed) ∧
    (∀ path, b.engine.resolve .get path =
      (Registration.position? listed (Path.join "" path)).map UInt16.ofNat) ∧
    (∀ (path path' : String) (core : List Char), Path.Strips path.toList core →
      Path.Strips path'.toList core →
      b.engine.resolve .get path = b.engine.resolve .get path') ∧
    (∀ before m after, h = before ++ m :: after → ∀ i path, (m.asked r)[i]? = some path →
      i < (((Bridge.new profile).run before).taken r m).length → ∃ id : UInt16,
        b.engine.resolve .get path = some id ∧
        id.toNat ≤ ((Bridge.new profile).takenIn r before).length + i ∧
        listed[id.toNat]?.map (·.pattern) = some (Path.join "" path)) ∧
    ∀ path id, b.engine.resolve .get path = some id → ∀ more,
      (b.run more).engine.resolve .get path = some id := by
  intro b listed
  have hfiled : b.Filed fun r => (Bridge.new profile).takenIn r h := filed_run profile h
  have hfirst : ∀ path, b.engine.resolve .get path =
      (Registration.position? listed (Path.join "" path)).map UInt16.ofNat := by
    intro path
    refine hfiled.resolve_of_alone fun r' hr => ?_
    rw [halone r' hr]
    rfl
  refine ⟨hfiled.routes_of_alone halone, hfirst, ?_, ?_, ?_⟩
  · intro path path' core hpath hpath'
    have hsame : Path.join "" path = Path.join "" path' :=
      Path.join_congr rfl ((Path.strips_iff.mp hpath).trans (Path.strips_iff.mp hpath').symm)
    rw [hfirst, hfirst, hsame]
  · rintro before m after rfl i path hasked hi
    obtain ⟨x, htaken, hpattern⟩ := pattern_of_taken hasked hi
    obtain ⟨j, hle, hj, hfound⟩ :=
      Registration.position?_of_getElem? (getElem?_takenIn htaken after)
    rw [hpattern] at hj hfound
    have hnat : (UInt16.ofNat j).toNat = j := hfiled.position_lt hj
    refine ⟨UInt16.ofNat j, ?_, hnat.symm ▸ hle, ?_⟩
    · rw [hfirst, hj]
      rfl
    · rw [hnat]
      exact hfound
  · intro path id hid more
    obtain ⟨new, hnew⟩ := known_run profile h more
    exact Engine.resolve_of_known hnew hid

/-- A route, a tree of groups, a start that fails, and another route with the pattern of the first
one. -/
def orchard : List Move :=
  let route : Route := ⟨[], fun request => .done (.ok ⟨200, request.body⟩)⟩
  [.addRouter, .addRoute 0 "/a//b/" route,
    .addGroup 0 "/g/" [] [.route "" route, .group "/h" [] [.route "x/" route]],
    .addServer 0 8080 {}, .failStarts (some none), .start 0, .addRoute 0 "a//b" route]

theorem shadowed_route_leads_to_earlier_one :
    let b := (Bridge.new .memory).run orchard
    (∀ r', 0 ≠ r' → (Bridge.new .memory).takenIn r' orchard = []) ∧
      b.engine.resolve .get "g/h/x" = some 2 ∧ b.engine.resolve .get "//a//b" = some 0 ∧
      b.engine.resolve .get "/a/b" = none ∧
      ∀ more, (b.run more).engine.resolve .get "g/h/x" = some 2 := by
  intro b
  have halone : ∀ r', 0 ≠ r' → (Bridge.new .memory).takenIn r' orchard = [] := by
    intro r' hne
    have hroom : b.shelves.length = 1 := by decide +kernel
    exact (filed_run .memory orchard).vacant r' (hroom.trans_le (Nat.pos_of_ne_zero hne.symm))
  obtain ⟨-, hfirst, -, -, hstays⟩ := paths_lead_to_earliest_routes .memory 0 orchard halone
  have hx : b.engine.resolve .get "g/h/x" = some 2 := (hfirst _).trans (by decide +kernel)
  have hab : b.engine.resolve .get "//a//b" = some 0 := (hfirst _).trans (by decide +kernel)
  have hnone : b.engine.resolve .get "/a/b" = none := (hfirst _).trans (by decide +kernel)
  exact ⟨halone, hx, hab, hnone, hstays _ _ hx⟩

end Bridge
end RequestBridge
