import RequestBridge.Proofs.Bridge.Callback
import RequestBridge.Proofs.Bridge.Listings

/-! Where a path leads.

An engine in memory has one list of the routes of all tables, and looks a path up in all of it. What
it finds is a number, and the server that is attached takes the number for one of its own
(`paths_lead_to_numbers`). So a path leads to the earliest route of the server's own router as long
as no other router has taken a route of that pattern. Where one has, even one that no one has any
more, the path may lead to a route of another pattern (`path_leads_astray`). -/
namespace RequestBridge

/-- The number of the earliest registration with a pattern. -/
def Registration.position? (xs : List Registration) (pattern : String) : Option Nat :=
  xs.findIdx? (·.pattern == pattern)

/-- Whether a route is one for a pattern. -/
def KnownRoute.fits (pattern : String) (k : KnownRoute) : Bool :=
  k.method == .get && k.pattern == pattern

/-- In what the engine knows of a table, the first route for a pattern has the number of the
earliest registration with it. -/
theorem Registration.find?_listing (table : Address) (xs : List Registration) (pattern : String) :
    ((listing table xs).find? (KnownRoute.fits pattern)).map (·.route) =
      (position? xs pattern).map UInt16.ofNat := by
  induction xs using List.reverseRecOn with
  | nil => rfl
  | append_singleton xs x ih =>
    unfold listing position? at ih ⊢
    rw [List.mapIdx_append, List.find?_append, List.findIdx?_append, Option.map_or, Option.map_or,
      ih]
    refine congrArg (Option.or _) ?_
    cases hx : x.pattern == pattern <;> simp [KnownRoute.fits, hx]

namespace Engine
variable {e : Engine} {pattern : String} {table : Address}

/-- The first route for a pattern, whatever its table. -/
def earliest? (e : Engine) (pattern : String) : Option KnownRoute :=
  e.routes.find? (KnownRoute.fits pattern)

theorem resolve_eq (e : Engine) (path : String) :
    e.resolve .get path = (e.earliest? (Path.join "" path)).map (·.route) := rfl

/-- The first route of all is the first one of its table. -/
theorem earliest?_of_table {k : KnownRoute} (h : e.earliest? pattern = some k) :
    (e.routesOf k.table).find? (KnownRoute.fits pattern) = some k := by
  obtain ⟨hfits, before, after, hroutes, hnone⟩ := List.find?_eq_some_iff_append.mp h
  unfold routesOf
  rw [List.find?_filter]
  refine List.find?_eq_some_iff_append.mpr ⟨by simp [hfits], before, after, hroutes, ?_⟩
  intro k' hk'
  have hnot : k'.fits pattern = false := by simpa using hnone k' hk'
  simp [hnot]

/-- Where only one table has routes for a pattern, its first one is the first of all. -/
theorem earliest?_of_alone
    (h : ∀ k ∈ e.routes, k.fits pattern = true → k.table = table) :
    e.earliest? pattern = (e.routesOf table).find? (KnownRoute.fits pattern) := by
  unfold earliest? routesOf
  rw [← List.head?_filter, ← List.head?_filter, List.filter_filter]
  refine congrArg List.head? (List.filter_congr ?_)
  intro k hk
  cases hfits : k.fits pattern with
  | false => rfl
  | true => simp [h k hk hfits]

end Engine
namespace Bridge
variable {b : Bridge} {r : RouterId} {listed : RouterId → List Registration} {pattern : String}

namespace Filed

/-- What the engine has of a router, and what a number leads to on this side. -/
theorem find?_routesOf (h : b.Filed listed) {table : Address} {routes : List Route}
    (hshelf : b.shelves[r]? = some (table, routes)) (pattern : String) :
    ((b.engine.routesOf table).find? (KnownRoute.fits pattern)).map (·.route) =
      (Registration.position? (listed r) pattern).map UInt16.ofNat := by
  rw [h.told hshelf, Registration.find?_listing]

theorem position_lt (h : b.Filed listed) {i : Nat}
    (hi : Registration.position? (listed r) pattern = some i) : (UInt16.ofNat i).toNat = i := by
  have hlt := (List.findIdx?_eq_some_iff_getElem.mp hi).1
  have hroom := h.room r
  unfold maxRoutes at hroom
  rw [UInt16.toNat_ofNat']
  omega

/-- A route that the engine knows is one of some router. -/
theorem owner (h : b.Filed listed) {k : KnownRoute} (hk : k ∈ b.engine.routes)
    (hfits : k.fits pattern = true) : ∃ (r : RouterId) (routes : List Route),
      b.shelves[r]? = some (k.table, routes) ∧
      Registration.position? (listed r) pattern ≠ none := by
  obtain ⟨r, routes, hshelf⟩ := h.known k (List.mem_reverse.mp hk)
  refine ⟨r, routes, hshelf, fun hnone => ?_⟩
  have hfound := h.find?_routesOf hshelf pattern
  rw [hnone, Option.map_none, Option.map_eq_none_iff, List.find?_eq_none] at hfound
  exact hfound k (List.mem_filter.mpr ⟨hk, beq_self_eq_true _⟩) hfits

/-- The first route for a pattern is the earliest one of some router. -/
theorem of_earliest? (h : b.Filed listed) {k : KnownRoute}
    (hk : b.engine.earliest? pattern = some k) : ∃ (r : RouterId) (routes : List Route),
      b.shelves[r]? = some (k.table, routes) ∧
      Registration.position? (listed r) pattern = some k.route.toNat := by
  obtain ⟨r, routes, hshelf, _⟩ := h.owner (List.mem_of_find?_eq_some hk) (List.find?_some hk)
  have hfound := h.find?_routesOf hshelf pattern
  rw [Engine.earliest?_of_table hk] at hfound
  obtain ⟨i, hi, hroute⟩ := Option.map_eq_some_iff.mp hfound.symm
  refine ⟨r, routes, hshelf, ?_⟩
  rw [hi, ← show UInt16.ofNat i = k.route from hroute, h.position_lt hi]

/-- A path leads nowhere if and only if no router at all has taken a route for it. -/
theorem resolve_eq_none (h : b.Filed listed) {path : String} :
    b.engine.resolve .get path = none ↔
      ∀ r, Registration.position? (listed r) (Path.join "" path) = none := by
  rw [Engine.resolve_eq, Option.map_eq_none_iff]
  constructor
  · intro hnone r
    cases hshelf : b.shelves[r]? with
    | none =>
      rw [h.vacant r (List.getElem?_eq_none_iff.mp hshelf)]
      rfl
    | some shelf =>
      have hfound := h.find?_routesOf hshelf (Path.join "" path)
      have hnot :
          (b.engine.routesOf shelf.1).find? (KnownRoute.fits (Path.join "" path)) = none := by
        refine List.find?_eq_none.mpr ?_
        intro k hk
        exact List.find?_eq_none.mp hnone k (List.mem_filter.mp hk).1
      rw [hnot] at hfound
      exact Option.map_eq_none_iff.mp hfound.symm
  · intro hnone
    cases hk : b.engine.earliest? (Path.join "" path) with
    | none => rfl
    | some k =>
      obtain ⟨r, _, _, hposition⟩ := h.of_earliest? hk
      cases (hnone r).symm.trans hposition

/-- A pattern that only one router has routes for is looked up among these. -/
theorem resolve_of_alone (h : b.Filed listed) {path : String}
    (halone : ∀ r', r ≠ r' → Registration.position? (listed r') (Path.join "" path) = none) :
    b.engine.resolve .get path =
      (Registration.position? (listed r) (Path.join "" path)).map UInt16.ofNat := by
  cases hposition : Registration.position? (listed r) (Path.join "" path) with
  | none =>
    refine h.resolve_eq_none.mpr fun r' => ?_
    by_cases hr : r = r'
    · exact hr ▸ hposition
    · exact halone r' hr
  | some i =>
    have hroom : r < b.shelves.length := by
      refine Nat.lt_of_not_le fun hle => ?_
      rw [h.vacant r hle] at hposition
      cases hposition
    have hshelf := List.getElem?_eq_getElem hroom
    rw [← hposition, ← h.find?_routesOf hshelf]
    refine congrArg (Option.map _) (Engine.earliest?_of_alone ?_)
    intro k hk hfits
    obtain ⟨r', routes, hshelf', hfound⟩ := h.owner hk hfits
    by_cases hr : r = r'
    · subst hr
      exact (congrArg Prod.fst (Option.some.inj (hshelf.symm.trans hshelf'))).symm
    · exact absurd (halone r' hr) hfound

end Filed

/-- A request without a number goes to the earliest of the given routes whose pattern is the normal
form of its path, and is refused where there is none. -/
def Finds (b : Bridge) (listed : List Registration) (o : Client.Outbound) : Prop :=
  b.sendRequest o =
    match Registration.position? listed (Path.join "" o.path) with
    | some i => b.sendFrame (UInt16.ofNat i) o.frame o.cancelled
    | none => .error (.noRoute .get o.path)

theorem sendRequest_of_path {o : Client.Outbound} (hroute : o.route = none) : b.sendRequest o =
    match b.engine.resolve .get o.path with
    | some id => b.sendFrame id o.frame o.cancelled
    | none => .error (.noRoute .get o.path) := by
  unfold sendRequest
  rw [hroute]
  cases b.engine.resolve .get o.path <;> rfl

/-- A path leads to the number of the earliest route for it among the routes of all routers, whether
anyone still has them or not, and nowhere if there is none. Whose number it is does not matter to
the server that is attached: the number leads to a route of its own router. So the server finds the
routes of its own router where no other router has taken a route for the path. -/
theorem paths_lead_to_numbers (profile : Profile) (h : List Move) :
    let b := (Bridge.new profile).run h
    let listed := fun r => (Bridge.new profile).takenIn r h
    (∀ s, b.engine.attached = some s → ∃ server mounted, b.servers[s]? = some server ∧
      b.routers[server.router]? = some mounted ∧
      b.dispatcher? s = some ⟨mounted.router.registry, server.limits⟩ ∧
      ∀ id, mounted.router.registry.route? id =
        (listed server.router)[id.toNat]?.map (·.route)) ∧
    ∀ o : Client.Outbound, o.route = none →
      let pattern := Path.join "" o.path
      (match b.engine.earliest? pattern with
        | some k => b.sendRequest o = b.sendFrame k.route o.frame o.cancelled ∧
          ∃ (r : RouterId) (mounted : Mounted), b.routers[r]? = some mounted ∧
            mounted.router.table = k.table ∧
            Registration.position? (listed r) pattern = some k.route.toNat
        | none => b.sendRequest o = .error (.noRoute .get o.path) ∧
          ∀ r, Registration.position? (listed r) pattern = none) ∧
      ∀ r, (∀ r', r ≠ r' → Registration.position? (listed r') pattern = none) →
        b.Finds (listed r) o := by
  intro b listed
  have hfiled : b.Filed listed := filed_run profile h
  refine ⟨?_, ?_⟩
  · intro s hattached
    obtain ⟨server, mounted, hserver, hmounted, hdispatcher⟩ :=
      dispatcher?_of_attached profile h [] hattached
    refine ⟨server, mounted, hserver, hmounted, hdispatcher, ?_⟩
    exact (hfiled.agrees hmounted (sound_run profile h hmounted)).route?
  · intro o hroute pattern
    have hsent := sendRequest_of_path (b := b) hroute
    refine ⟨?_, ?_⟩
    · cases hk : b.engine.earliest? pattern with
      | some k =>
        have hresolve : b.engine.resolve .get o.path = some k.route := congrArg (Option.map _) hk
        obtain ⟨r, routes, hshelf, hposition⟩ := hfiled.of_earliest? hk
        obtain ⟨mounted, hmounted, htable⟩ := mounted_of_shelf hshelf
        rw [hresolve] at hsent
        exact ⟨hsent, r, mounted, hmounted, htable, hposition⟩
      | none =>
        have hresolve : b.engine.resolve .get o.path = none := congrArg (Option.map _) hk
        rw [hresolve] at hsent
        exact ⟨hsent, hfiled.resolve_eq_none.mp hresolve⟩
    · intro r halone
      unfold Finds
      rw [hsent, hfiled.resolve_of_alone halone]
      cases Registration.position? (listed r) (Path.join "" o.path) <;> rfl

/-- Two routers with a route each. The first one has been given up, and the server of the second one
is started. -/
def crossing : List Move :=
  [.addRouter, .addRoute 0 "/x" ⟨[], fun _ => .done (.ok ⟨200, Utf8.encode "x"⟩)⟩,
    .addRouter, .addRoute 1 "/y" ⟨[], fun _ => .done (.ok ⟨200, Utf8.encode "y"⟩)⟩,
    .addServer 1 8080 {}, .start 0, .dropRouter 0]

theorem path_leads_to_its_only_route :
    let b := (Bridge.new .memory).run crossing
    let listed := fun r => (Bridge.new .memory).takenIn r crossing
    (∀ r, 1 ≠ r → Registration.position? (listed r) "/y" = none) ∧
      Registration.position? (listed 1) "/y" = some 0 ∧
      b.Finds (listed 1) { path := "y/" } ∧
      (b.send 20 { path := "y/" }).2 = .ok (.ofResponse ⟨200, Utf8.encode "y"⟩) := by
  intro b listed
  have hpattern : Path.join "" "y/" = "/y" := by decide +kernel
  have halone : ∀ r, 1 ≠ r → Registration.position? (listed r) "/y" = none := by
    intro r hne
    rcases r with _ | _ | r
    · decide +kernel
    · exact absurd rfl hne
    · have hroom : b.shelves.length = 2 := by decide +kernel
      have hvacant := (filed_run .memory crossing).vacant (r + 2) (hroom.symm ▸ Nat.le_add_left 2 r)
      rw [show listed (r + 2) = [] from hvacant]
      rfl
  refine ⟨halone, by decide +kernel, ?_, by decide +kernel⟩
  exact ((paths_lead_to_numbers .memory crossing).2 { path := "y/" } rfl).2 1
    (by rw [hpattern]; exact halone)

/-- A path for which the router of the server has no route is not refused, but answered by another
route: the number that it leads to is that of a route whose table is freed. -/
theorem path_leads_astray :
    let b := (Bridge.new .memory).run crossing
    let listed := (Bridge.new .memory).takenIn 1 crossing
    b.engine.attached = some 0 ∧ b.servers.map (·.router) = [1] ∧
      b.routers.map (·.router.table) = [16, 32] ∧ b.engine.tables = [32] ∧
      listed.map (·.pattern) = ["/y"] ∧
      ¬ b.Finds listed { path := "/x" } ∧
      (b.send 20 { path := "/x" }).2 = .ok (.ofResponse ⟨200, Utf8.encode "y"⟩) := by
  have hsent : (((Bridge.new .memory).run crossing).sendRequest { path := "/x" }).toOption.isSome =
      true := by decide +kernel
  have hnone : Registration.position? ((Bridge.new .memory).takenIn 1 crossing)
      (Path.join "" "/x") = none := by decide +kernel
  refine ⟨by decide +kernel, by decide +kernel, by decide +kernel, by decide +kernel,
    by decide +kernel, fun hfinds => ?_, by decide +kernel⟩
  unfold Finds at hfinds
  rw [hnone] at hfinds
  rw [hfinds] at hsent
  cases hsent

end Bridge
end RequestBridge
