import Mathlib.Data.List.Induction
import RequestBridge.Proofs.Bridge.Owners
import RequestBridge.Proofs.Routing.Agreement

/-! The routes of all the routers on a bridge.

Which routes a router has is said by what was asked of it: the registrations that were accepted, in
order (`Bridge.takenIn`). The registry of the router has these, by their numbers, and so has the
engine under the table of the router, whatever is done to other routers of the same engine
(`filed_run`). -/
namespace RequestBridge

/-- The registrations that a move asks of a router, in order. -/
def Move.registrations (r : RouterId) : Move → List Registration
  | .addRoute r' path route => if r' = r then [⟨path, route⟩] else []
  | .addGroup r' base stages items =>
    if r' = r then (Group.outermost base stages).listedAll items else []
  | _ => []

/-- Whether a move adds a router or routes to one. -/
def Move.isDeclaring : Move → Bool
  | .addRouter => true
  | .addRoute .. => true
  | .addGroup .. => true
  | _ => false

namespace Engine

/-- An engine that may have been told of more routes of one table, and of no others. -/
def Hears (table : Address) (e e' : Engine) : Prop :=
  ∃ new, e'.known = new ++ e.known ∧ ∀ k ∈ new, k.table = table

theorem hears_registerRoute (e : Engine) (table : Address) (method : Method) (pattern : Bytes)
    (route : UInt16) : Hears table e (e.registerRoute table method pattern route).1 := by
  rw [registerRoute_eq]
  refine ⟨_, rfl, ?_⟩
  intro k hk
  obtain ⟨_, _, rfl⟩ := List.mem_map.mp hk
  rfl

variable {table : Address} {e e' e'' : Engine}

theorem Hears.refl (table : Address) (e : Engine) : Hears table e e :=
  ⟨[], rfl, fun _ h => nomatch h⟩

theorem Hears.trans (h : Hears table e e') (h' : Hears table e' e'') : Hears table e e'' := by
  obtain ⟨new, hknown, hnew⟩ := h
  obtain ⟨new', hknown', hnew'⟩ := h'
  refine ⟨new' ++ new, by rw [hknown', hknown, List.append_assoc], ?_⟩
  intro k hk
  exact (List.mem_append.mp hk).elim (hnew' k) (hnew k)

/-- The routes of the other tables stay as they are. -/
theorem Hears.routesOf (h : Hears table e e') {other : Address} (hne : other ≠ table) :
    e'.routesOf other = e.routesOf other := by
  obtain ⟨new, hknown, hnew⟩ := h
  have hnone : new.reverse.filter (·.table == other) = [] := by
    refine List.filter_eq_nil_iff.mpr ?_
    intro k hk hother
    rw [hnew k (List.mem_reverse.mp hk)] at hother
    exact hne (beq_iff_eq.mp hother).symm
  unfold Engine.routesOf routes
  rw [hknown, List.reverse_append, List.filter_append, hnone, List.append_nil]

end Engine

/-- To add routes to a router tells the engine of its own table only. -/
theorem Router.lasts_hears :
    Router.Lasts fun x y => y.1.table = x.1.table ∧ x.2.Hears x.1.table y.2 := by
  refine ⟨fun x => ⟨rfl, .refl _ _⟩, ?_, ?_⟩
  · rintro x y z ⟨htable, hears⟩ ⟨htable', hears'⟩
    rw [htable] at htable' hears'
    exact ⟨htable', hears.trans hears'⟩
  · intro r e method path route
    obtain ⟨htable, htold⟩ := r.told_addRoute e method path route
    refine ⟨htable, ?_⟩
    dsimp only
    rcases htold with hsame | ⟨id, htold⟩
    · rw [hsame]
      exact .refl _ e
    · rw [htold]
      exact e.hears_registerRoute _ _ _ id

namespace Bridge
variable {b b' b'' : Bridge} {r : RouterId} {s : ServerId}

/-- The registrations of a router that are accepted in a move. -/
def taken (b : Bridge) (r : RouterId) (m : Move) : List Registration :=
  match b.router? r with
  | some router => (router.addAll b.engine (m.registrations r)).taken
  | none => []

/-- The registrations of a router that are accepted, in order. -/
def takenIn (b : Bridge) (r : RouterId) : List Move → List Registration
  | [] => []
  | m :: rest => b.taken r m ++ (b.apply m).takenIn r rest

theorem taken_of_router {router : Router} (h : b.router? r = some router) (m : Move) :
    b.taken r m = (router.addAll b.engine (m.registrations r)).taken := by
  unfold taken
  rw [h]

theorem taken_eq_nil {m : Move} (h : m.registrations r = [] ∨ b.router? r = none) :
    b.taken r m = [] := by
  unfold taken
  split
  · next router hrouter =>
    rcases h with hnothing | hnone
    · rw [hnothing]
      rfl
    · cases hnone.symm.trans hrouter
  · rfl

theorem takenIn_concat (b : Bridge) (r : RouterId) (h : List Move) (m : Move) :
    b.takenIn r (h ++ [m]) = b.takenIn r h ++ (b.run h).taken r m := by
  induction h generalizing b with
  | nil => exact List.append_nil _
  | cons m' rest ih =>
    show b.taken r m' ++ (b.apply m').takenIn r (rest ++ [m]) = _
    rw [ih, ← List.append_assoc]
    rfl

/-- The table of each router, and the routes that it has. -/
def shelves (b : Bridge) : List (Address × List Route) :=
  b.routers.map fun mounted => (mounted.router.table, mounted.router.registry.routes)

theorem getElem?_shelves {mounted : Mounted} (h : b.routers[r]? = some mounted) :
    b.shelves[r]? = some (mounted.router.table, mounted.router.registry.routes) := by
  rw [shelves, List.getElem?_map, h]
  rfl

theorem mounted_of_shelf {table : Address} {routes : List Route}
    (h : b.shelves[r]? = some (table, routes)) :
    ∃ mounted, b.routers[r]? = some mounted ∧ mounted.router.table = table := by
  rw [shelves, List.getElem?_map] at h
  obtain ⟨mounted, hmounted, hshelf⟩ := Option.map_eq_some_iff.mp h
  exact ⟨mounted, hmounted, (Prod.mk.inj hshelf).1⟩

theorem getElem?_titles_of_shelves {table : Address} {routes : List Route}
    (h : b.shelves[r]? = some (table, routes)) : b.estate.titles[r]? = some table := by
  obtain ⟨mounted, hmounted, rfl⟩ := mounted_of_shelf h
  exact getElem?_titles hmounted

/-! ### What leaves the routes -/

/-- What leaves all routes as they are, on both sides. -/
structure SameRoutes (b b' : Bridge) : Prop where
  known : b'.engine.known = b.engine.known
  shelves : b'.shelves = b.shelves

namespace SameRoutes

theorem refl (b : Bridge) : SameRoutes b b := ⟨rfl, rfl⟩

theorem trans (h : SameRoutes b b') (h' : SameRoutes b' b'') : SameRoutes b b'' :=
  ⟨h'.known.trans h.known, h'.shelves.trans h.shelves⟩

theorem of_tends (h : Tends b b') : SameRoutes b b' :=
  ⟨congrArg Engine.Holdings.known h.engine, by rw [Bridge.shelves, h.routers, Bridge.shelves]⟩

theorem setHolders (b : Bridge) (r : RouterId) (holders : Nat) :
    SameRoutes b (b.setHolders r holders) :=
  ⟨rfl, map_modify_eq_self fun _ _ => rfl⟩

theorem setRouter {router router' : Router} (h : b.router? r = some router)
    (htable : router'.table = router.table)
    (hroutes : router'.registry.routes = router.registry.routes) :
    SameRoutes b (b.setRouter r router') := by
  refine ⟨rfl, map_modify_eq_self ?_⟩
  intro x hx
  obtain ⟨mounted, hmounted, rfl⟩ := mounted_of_router? h
  cases hx.symm.trans hmounted
  exact congrArg₂ Prod.mk htable hroutes

theorem after {router : Router} (h : b.router? r = some router) (t : Transition) :
    SameRoutes b (b.setRouter r (router.after t)) := by
  refine setRouter h rfl ?_
  cases t <;> rfl

theorem changePhase {t : Transition} (h : b.changePhase r t = .ok b') : SameRoutes b b' := by
  rcases b.changePhase_cases r t with ⟨misuse, hrefused, _⟩ | ⟨router, hrouter, _, hchange⟩
  · cases h.symm.trans hrefused
  · cases h.symm.trans hchange
    exact .after hrouter t

theorem apply_changePhase (h : SameRoutes b b') (t : Transition) :
    SameRoutes b (b'.apply (.changePhase r t)) := by
  refine h.trans ?_
  dsimp only [apply]
  cases hchange : b'.changePhase r t with
  | error misuse => exact .refl b'
  | ok x => exact .changePhase hchange

end SameRoutes

theorem Turn.sameRoutes {x : Bridge} (h : Turn s b x) : SameRoutes b x := by
  cases h with
  | rests => exact .refl b
  | begins _ _ hrouter =>
    obtain ⟨hknown, hshelves⟩ := SameRoutes.after hrouter .begin
    exact ⟨hknown, hshelves⟩
  | denied =>
    refine .apply_changePhase ?_ .rollback
    exact ⟨rfl, rfl⟩
  | attaches _ _ hattach =>
    obtain ⟨_, rfl⟩ := Engine.attach_eq_ok hattach
    exact ⟨rfl, rfl⟩
  | fails _ _ hstart =>
    obtain ⟨_, _, rfl⟩ := Engine.startServer_eq_none hstart
    exact ⟨rfl, rfl⟩
  | starts _ _ hstart =>
    rw [Engine.startServer_eq_some hstart]
    refine .apply_changePhase ?_ .commit
    exact ⟨rfl, rfl⟩
  | @abandons _ x _ _ hback =>
    obtain ⟨hknown, hshelves⟩ := SameRoutes.changePhase hback
    have htaken : x.engine.takeError.1.known = x.engine.known := by
      unfold Engine.takeError
      split <;> rfl
    exact ⟨htaken.trans hknown, hshelves⟩
  | strands => exact ⟨rfl, rfl⟩
  | stops => exact ⟨rfl, rfl⟩
  | detaches => exact ⟨rfl, rfl⟩

theorem sameRoutes_freeIfUnowned (b : Bridge) (r : RouterId) :
    SameRoutes b (b.freeIfUnowned r) := by
  unfold freeIfUnowned
  split
  · split
    · exact .refl b
    · exact ⟨rfl, rfl⟩
  · exact .refl b

theorem sameRoutes_dropRouter (b : Bridge) (r : RouterId) : SameRoutes b (b.dropRouter r) := by
  unfold dropRouter
  split
  · exact (SameRoutes.setHolders b r _).trans (sameRoutes_freeIfUnowned _ r)
  · exact .refl b

theorem sameRoutes_shareRouter (b : Bridge) (r : RouterId) : SameRoutes b (b.shareRouter r) := by
  unfold shareRouter
  split
  · split
    · exact .setHolders b r _
    · exact .refl b
  · exact .refl b

theorem sameRoutes_addStage (b : Bridge) (r : RouterId) (stage : Middleware) :
    SameRoutes b ((b.addStage r stage).toOption.getD b) := by
  unfold addStage
  split
  · next router hrouter =>
    cases hadd : router.addStage stage with
    | error misuse => exact .refl b
    | ok router' =>
      obtain ⟨_, rfl⟩ := Router.addStage_eq_ok hadd
      exact .setRouter hrouter rfl rfl
  · exact .refl b

theorem sameRoutes_addServer (b : Bridge) (r : RouterId) (port : UInt16) (limits : Frame.Limits) :
    SameRoutes b (b.addServer r port limits) := by
  unfold addServer
  split
  · exact ⟨rfl, rfl⟩
  · exact .refl b

theorem sameRoutes_stepStart (b : Bridge) (s : ServerId) : SameRoutes b (b.stepStart s).bridge := by
  obtain ⟨x, hturn, htends⟩ := b.turn_stepStart s
  exact hturn.sameRoutes.trans (.of_tends htends)

theorem sameRoutes_stepStop (b : Bridge) (s : ServerId) : SameRoutes b (b.stepStop s) := by
  obtain ⟨x, hturn, htends⟩ := b.turn_stepStop s
  exact hturn.sameRoutes.trans (.of_tends htends)

theorem sameRoutes_stop (b : Bridge) (s : ServerId) : SameRoutes b (b.stop s) :=
  (b.sameRoutes_stepStop s).trans (sameRoutes_stepStop _ s)

theorem sameRoutes_start (b : Bridge) (s : ServerId) : SameRoutes b (b.start s).1 := by
  have hsteps : ∀ (n : Nat) (x : Bridge),
      SameRoutes x (x.run (List.replicate n (.stepStart s))) := by
    intro n
    induction n with
    | zero => exact .refl
    | succ n ih => exact fun x => (x.sameRoutes_stepStart s).trans (ih _)
  obtain ⟨n, hn⟩ := b.start_eq_run s
  rw [hn]
  exact (b.turn_beginStart s).sameRoutes.trans (hsteps n _)

theorem sameRoutes_dropServer (b : Bridge) (s : ServerId) : SameRoutes b (b.dropServer s) := by
  unfold dropServer
  split
  · exact .refl b
  · split
    · exact .refl b
    · have hgiven : SameRoutes b { b.stop s with
          servers := (b.stop s).servers.modify s fun server => { server with dropped := true } } :=
        ⟨(b.sameRoutes_stop s).known, (b.sameRoutes_stop s).shelves⟩
      exact hgiven.trans (sameRoutes_freeIfUnowned _ _)

/-- A move that declares nothing leaves all routes as they are. -/
theorem sameRoutes_apply (ho : b.Orderly) {m : Move} (hm : m.isDeclaring = false) :
    SameRoutes b (b.apply m) := by
  cases hmanaged : m.isManagement with
  | false => exact .of_tends (tends_apply ho m hmanaged)
  | true =>
    cases m with
    | shareRouter r => exact b.sameRoutes_shareRouter r
    | dropRouter r => exact b.sameRoutes_dropRouter r
    | addStage r stage => exact b.sameRoutes_addStage r stage
    | changePhase r t => exact (SameRoutes.refl b).apply_changePhase t
    | addServer r port limits => exact b.sameRoutes_addServer r port limits
    | beginStart s => exact (b.turn_beginStart s).sameRoutes
    | stepStart s => exact b.sameRoutes_stepStart s
    | stepStop s => exact b.sameRoutes_stepStop s
    | start s => exact b.sameRoutes_start s
    | stop s => exact b.sameRoutes_stop s
    | dropServer s => exact b.sameRoutes_dropServer s
    | failStarts failing => exact ⟨rfl, rfl⟩
    | refuseRoutes code => exact ⟨rfl, rfl⟩
    | exhaustTables exhausted => exact ⟨rfl, rfl⟩
    | addRouter => cases hm
    | addRoute r path route => cases hm
    | addGroup r base stages items => cases hm
    | _ => cases hmanaged

/-! ### What adds to the routes -/

/-- The registrations of each router that were accepted are on its shelf, by their numbers, and the
engine lists them under its table. The engine knows of no others. -/
structure Filed (b : Bridge) (listed : RouterId → List Registration) : Prop where
  told : ∀ {r : RouterId} {table routes}, b.shelves[r]? = some (table, routes) →
    b.engine.routesOf table = Registration.listing table (listed r)
  routes : ∀ {r : RouterId} {table routes}, b.shelves[r]? = some (table, routes) →
    routes = (listed r).map (·.route)
  room : ∀ r, (listed r).length ≤ maxRoutes
  vacant : ∀ r, b.shelves.length ≤ r → listed r = []
  known : ∀ k ∈ b.engine.known,
    ∃ (r : RouterId) (routes : List Route), b.shelves[r]? = some (k.table, routes)

namespace Filed
variable {listed listed' : RouterId → List Registration}

theorem new (profile : Profile) : (Bridge.new profile).Filed fun _ => [] where
  told h := nomatch h
  routes h := nomatch h
  room _ := Nat.zero_le _
  vacant _ _ := rfl
  known _ h := nomatch h

theorem keep (h : b.Filed listed) (hsame : SameRoutes b b') : b'.Filed listed where
  told hshelf := by
    unfold Engine.routesOf Engine.routes
    rw [hsame.known]
    exact h.told (hsame.shelves ▸ hshelf)
  routes hshelf := h.routes (hsame.shelves ▸ hshelf)
  room := h.room
  vacant r hr := h.vacant r (hsame.shelves ▸ hr)
  known k hk := by
    rw [hsame.known] at hk
    rw [hsame.shelves]
    exact h.known k hk

theorem agrees (h : b.Filed listed) {mounted : Mounted} (hmounted : b.routers[r]? = some mounted)
    (hsound : mounted.router.Sound) :
    Agrees Engine.books mounted.router.table (mounted.router, b.engine) (listed r) :=
  ⟨h.told (getElem?_shelves hmounted), h.routes (getElem?_shelves hmounted), h.room r, rfl, hsound⟩

/-- A new router has no routes yet. -/
theorem addRouter (h : b.Filed listed) (hfresh : ∀ a ∈ b.estate.titles, a < b.engine.next) :
    b.addRouter.1.Filed listed := by
  have hnone : b.engine.routesOf b.engine.next = [] := by
    refine List.filter_eq_nil_iff.mpr ?_
    intro k hk htable
    obtain ⟨r, routes, hshelf⟩ := h.known k (List.mem_reverse.mp hk)
    have hlt := hfresh _ (List.mem_of_getElem? (getElem?_titles_of_shelves hshelf))
    rw [beq_iff_eq.mp htable] at hlt
    exact Nat.lt_irrefl _ hlt
  unfold Bridge.addRouter
  rcases b.engine.createTable_cases with hcreate | hcreate
  · rw [hcreate]
    exact h
  rw [hcreate]
  dsimp only
  have hshelves : ∀ b' : Bridge,
      b'.routers = b.routers ++ [{ router := { table := b.engine.next } }] →
      b'.shelves = b.shelves ++ [(b.engine.next, [])] := by
    intro b' hrouters
    rw [shelves, hrouters, List.map_append]
    rfl
  refine ⟨?_, ?_, h.room, ?_, ?_⟩
  · intro r table routes hshelf
    rw [hshelves _ rfl] at hshelf
    rcases getElem?_concat_cases hshelf with hold | ⟨rfl, hnew⟩
    · exact h.told hold
    · obtain ⟨rfl, _⟩ := Prod.mk.inj hnew
      rw [h.vacant _ (Nat.le_refl _)]
      exact hnone
  · intro r table routes hshelf
    rw [hshelves _ rfl] at hshelf
    rcases getElem?_concat_cases hshelf with hold | ⟨rfl, hnew⟩
    · exact h.routes hold
    · obtain ⟨_, rfl⟩ := Prod.mk.inj hnew
      rw [h.vacant _ (Nat.le_refl _)]
      rfl
  · intro r hr
    rw [hshelves _ rfl, List.length_append] at hr
    exact h.vacant r (Nat.le_of_succ_le hr)
  · intro k hk
    obtain ⟨r, routes, hshelf⟩ := h.known k hk
    refine ⟨r, routes, ?_⟩
    rw [hshelves _ rfl, List.getElem?_append_left (List.getElem?_eq_some_iff.mp hshelf).1]
    exact hshelf

/-- Routes are added to one router. -/
theorem adds (h : b.Filed listed) (hdistinct : b.estate.titles.Nodup) {router : Router}
    (hrouter : b.router? r = some router) {x : Router × Engine} {more : List Registration}
    (hagrees : Agrees Engine.books router.table x (listed r ++ more))
    (hears : b.engine.Hears router.table x.2) (hmore : listed' r = listed r ++ more)
    (hothers : ∀ r', r ≠ r' → listed' r' = listed r') :
    ({ b with engine := x.2 }.setRouter r x.1).Filed listed' := by
  obtain ⟨mounted, hmounted, rfl⟩ := mounted_of_router? hrouter
  have hthere := getElem?_shelves hmounted
  have hshelves : ({ b with engine := x.2 }.setRouter r x.1).shelves =
      b.shelves.set r (mounted.router.table, x.1.registry.routes) := by
    rw [← hagrees.table]
    exact map_modify_eq_set hmounted
  have hlt := (List.getElem?_eq_some_iff.mp hthere).1
  refine ⟨?_, ?_, ?_, ?_, ?_⟩
  · intro r' table routes hshelf
    rw [hshelves] at hshelf
    rcases getElem?_set_cases hshelf with ⟨rfl, hnew⟩ | ⟨hne, hold⟩
    · obtain ⟨rfl, _⟩ := Prod.mk.inj hnew
      rw [hmore]
      exact hagrees.told
    · have hother : table ≠ mounted.router.table := by
        rintro rfl
        have htitle := getElem?_titles hmounted
        have hroom := (List.getElem?_eq_some_iff.mp htitle).1
        exact hne ((List.getElem?_inj hroom hdistinct).mp
          (htitle.trans (getElem?_titles_of_shelves hold).symm))
      rw [hothers r' hne]
      exact (hears.routesOf hother).trans (h.told hold)
  · intro r' table routes hshelf
    rw [hshelves] at hshelf
    rcases getElem?_set_cases hshelf with ⟨rfl, hnew⟩ | ⟨hne, hold⟩
    · obtain ⟨_, rfl⟩ := Prod.mk.inj hnew
      rw [hmore]
      exact hagrees.routes
    · rw [hothers r' hne]
      exact h.routes hold
  · intro r'
    by_cases hr : r = r'
    · subst hr
      rw [hmore]
      exact hagrees.room
    · rw [hothers r' hr]
      exact h.room r'
  · intro r' hr
    rw [hshelves, List.length_set] at hr
    rw [hothers r' (Nat.ne_of_lt (Nat.lt_of_lt_of_le hlt hr))]
    exact h.vacant r' hr
  · intro k hk
    obtain ⟨new, hknown, hnew⟩ := hears
    change k ∈ x.2.known at hk
    rw [hknown] at hk
    rw [hshelves]
    rcases List.mem_append.mp hk with hk | hk
    · rw [hnew k hk]
      exact ⟨r, _, List.getElem?_set_self hlt⟩
    · obtain ⟨r', routes, hshelf⟩ := h.known k hk
      by_cases hr : r = r'
      · subst hr
        obtain ⟨htable, _⟩ := Prod.mk.inj (Option.some.inj (hthere.symm.trans hshelf))
        rw [← htable]
        exact ⟨r, _, List.getElem?_set_self hlt⟩
      · exact ⟨r', routes, by rw [List.getElem?_set_ne hr, hshelf]⟩

/-- What is asked of one router is filed for it as far as it is accepted. -/
theorem declares (h : b.Filed listed) (hkept : b.estate.Kept)
    (hsound : ∀ {mounted : Mounted}, b.routers[r]? = some mounted → mounted.router.Sound) {m : Move}
    (hothers : ∀ r', r ≠ r' → m.registrations r' = [])
    (hnone : b.router? r = none → SameRoutes b b')
    (hsome : ∀ router, b.router? r = some router → ∃ d : Deed Engine.books router.table,
      d.registrations = m.registrations r ∧
      let x := d.perform (router, b.engine)
      b.engine.Hears router.table x.2 ∧ SameRoutes ({ b with engine := x.2 }.setRouter r x.1) b') :
    b'.Filed fun r' => listed r' ++ b.taken r' m := by
  have hsame : ∀ r', r ≠ r' → listed r' ++ b.taken r' m = listed r' := by
    intro r' hne
    rw [taken_eq_nil (.inl (hothers r' hne)), List.append_nil]
  cases hrouter : b.router? r with
  | none =>
    have hall : (fun r' => listed r' ++ b.taken r' m) = listed := by
      funext r'
      by_cases hr : r = r'
      · subst hr
        rw [taken_eq_nil (.inr hrouter), List.append_nil]
      · exact hsame r' hr
    rw [hall]
    exact h.keep (hnone hrouter)
  | some router =>
    obtain ⟨d, hasked, hears, hrest⟩ := hsome router hrouter
    obtain ⟨mounted, hmounted, rfl⟩ := mounted_of_router? hrouter
    have hagrees := (h.agrees hmounted (hsound hmounted)).perform d
    rw [hasked, ← taken_of_router hrouter] at hagrees
    exact (h.adds hkept.distinct hrouter hagrees hears rfl hsame).keep hrest

theorem apply (h : b.Filed listed) (ho : b.Orderly) (hkept : b.estate.Kept)
    (hsound : ∀ {r : RouterId} {mounted : Mounted}, b.routers[r]? = some mounted →
      mounted.router.Sound) (m : Move) :
    (b.apply m).Filed fun r => listed r ++ b.taken r m := by
  have hnothing : (∀ r, m.registrations r = []) → (fun r => listed r ++ b.taken r m) = listed := by
    intro hnone
    funext r
    rw [taken_eq_nil (.inl (hnone r)), List.append_nil]
  cases hdeclaring : m.isDeclaring with
  | false =>
    rw [hnothing fun r => by cases m <;> first | rfl | cases hdeclaring]
    exact h.keep (sameRoutes_apply ho hdeclaring)
  | true =>
    cases m with
    | addRouter =>
      rw [hnothing fun _ => rfl]
      exact h.addRouter hkept.fresh
    | addRoute r path route =>
      refine h.declares (r := r) hkept hsound (fun r' hne => if_neg hne) ?_ ?_
      · intro hnone
        dsimp only [Bridge.apply, Bridge.addRoute]
        rw [hnone]
        exact .refl b
      · intro router hrouter
        refine ⟨.addRoute path route, (if_pos rfl).symm, ?_, ?_⟩
        · exact (Router.lasts_hears.addRoute router b.engine .get path route).2
        · dsimp only [Bridge.apply, Bridge.addRoute]
          rw [hrouter]
          exact ⟨rfl, rfl⟩
    | addGroup r base stages items =>
      refine h.declares (r := r) hkept hsound (fun r' hne => if_neg hne) ?_ ?_
      · intro hnone
        dsimp only [Bridge.apply, Bridge.addGroup]
        rw [hnone]
        exact .refl b
      · intro router hrouter
        refine ⟨.addGroup base stages items, (if_pos rfl).symm, ?_, ?_⟩
        · exact (Router.lasts_addGroup Router.lasts_hears router b.engine base stages items).2
        · dsimp only [Bridge.apply, Bridge.addGroup]
          rw [hrouter]
          exact ⟨rfl, rfl⟩
    | _ => cases hdeclaring

end Filed

/-- After every history the routes of every router are filed. -/
theorem filed_run (profile : Profile) (h : List Move) :
    ((Bridge.new profile).run h).Filed fun r => (Bridge.new profile).takenIn r h := by
  induction h using List.reverseRecOn with
  | nil => exact .new profile
  | append_singleton h m ih =>
    rw [run_append]
    have hstep := ih.apply (orderly_run profile h) (kept_run profile h) (sound_run profile h) m
    simp only [takenIn_concat]
    exact hstep

end Bridge
end RequestBridge
