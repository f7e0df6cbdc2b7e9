import RequestBridge.Proofs.Bridge.Estate
import RequestBridge.Proofs.Bridge.Seat

/-! The estate of a bridge.

Who owns which table can be read off a bridge (`Bridge.estate`). Most that is done on it leaves the
estate aside (`Aside`), and the rest is made of the steps of an estate (`estate_apply`), so the
estate of every bridge is in good order (`kept_run`). -/
namespace RequestBridge

def Server.tenant (s : Server) : Tenant := ⟨s.router, s.dropped, s.stage.handle?⟩

/-- An engine after something that is not about tables or servers, but for addresses that it may
have handed out. -/
structure Engine.Idles (e e' : Engine) : Prop where
  tables : e'.tables = e.tables
  custody : e'.custody = e.custody
  next : e.next ≤ e'.next

namespace Engine.Idles
variable {e e' e'' : Engine}

theorem refl (e : Engine) : Idles e e := ⟨rfl, rfl, Nat.le_refl _⟩

theorem trans (h : Idles e e') (h' : Idles e' e'') : Idles e e'' :=
  ⟨h'.tables.trans h.tables, h'.custody.trans h.custody, Nat.le_trans h.next h'.next⟩

theorem of_call (call : Call) (hcall : call.isCustody = false)
    (hjournal : e'.journal = call :: e.journal) (htables : e'.tables = e.tables)
    (hnext : e.next ≤ e'.next) : Idles e e' := by
  refine ⟨htables, ?_, hnext⟩
  unfold Engine.custody
  rw [hjournal, List.filter_cons_of_neg (Bool.eq_false_iff.mp hcall)]

theorem registerRoute (e : Engine) (table : Address) (method : Method) (pattern : Bytes)
    (route : UInt16) : Idles e (e.registerRoute table method pattern route).1 := by
  rw [registerRoute_eq]
  exact .of_call (.routeRegistered table method pattern route (e.codeFor table pattern)) rfl rfl rfl
    (Nat.le_refl _)

theorem takeError (e : Engine) : Idles e e.takeError.1 := by
  unfold Engine.takeError
  split
  · exact .refl e
  · exact .of_call .errorTaken rfl rfl rfl (Nat.le_refl _)

theorem detach (e : Engine) : Idles e e.detach :=
  .of_call .detached rfl rfl rfl (Nat.le_refl _)

theorem attach {s : ServerId} (h : e.attach s = .ok e') : Idles e e' := by
  obtain ⟨_, rfl⟩ := attach_eq_ok h
  exact .of_call (.attached s) rfl rfl rfl (Nat.le_refl _)

theorem startFailed {port : UInt16} {table : Option Address}
    (h : e.startServer port table = (e', none)) : Idles e e' := by
  obtain ⟨message, _, rfl⟩ := startServer_eq_none h
  exact .of_call (.startFailed port table) rfl rfl rfl (Nat.le_refl _)

end Engine.Idles

theorem Engine.createTable_cases (e : Engine) : e.createTable = (e, none) ∨
    e.createTable = ({ e with
      next := e.next + e.profile.stride
      tables := e.next :: e.tables }.record (.tableCreated e.next), some e.next) := by
  unfold createTable
  split
  · exact .inl rfl
  · exact .inr rfl

/-- A server that starts gets the next address as its handle. -/
theorem Engine.handle_of_startServer {e e' : Engine} {port : UInt16} {table : Option Address}
    {handle : Address} (h : e.startServer port table = (e', some handle)) : handle = e.next := by
  unfold startServer at h
  split at h
  · cases congrArg Prod.snd h
  · exact (Option.some.inj (congrArg Prod.snd h)).symm

/-- To add a route is at most one call to the engine, for the table of the router. -/
theorem Router.told_addRoute (r : Router) (e : Engine) (method : Method) (path : String)
    (route : Route) :
    let added := r.addRoute e method path route
    added.router.table = r.table ∧ (added.engine = e ∨ ∃ id, added.engine =
      (e.registerRoute r.table method (Utf8.encode (Path.join "" path)) id).1) := by
  rcases r.addRoute_cases e method path route with
    ⟨misuse, _, h⟩ | ⟨id, e', _, hregister, h⟩ | ⟨id, e', code, _, hregister, _, h⟩
  · rw [h]
    exact ⟨rfl, .inl rfl⟩
  · rw [h]
    exact ⟨rfl, .inr ⟨id, (congrArg Prod.fst hregister).symm⟩⟩
  · rw [h]
    exact ⟨rfl, .inr ⟨id, (congrArg Prod.fst hregister).symm⟩⟩

/-- To add routes leaves the table of a router, and the tables of the engine. -/
theorem Router.lasts_table :
    Router.Lasts fun x y => y.1.table = x.1.table ∧ x.2.Idles y.2 := by
  refine ⟨fun x => ⟨rfl, .refl x.2⟩, ?_, ?_⟩
  · rintro x y z ⟨htable, hidles⟩ ⟨htable', hidles'⟩
    exact ⟨htable'.trans htable, hidles.trans hidles'⟩
  · intro r e method path route
    obtain ⟨htable, htold⟩ := r.told_addRoute e method path route
    refine ⟨htable, ?_⟩
    dsimp only
    rcases htold with hsame | ⟨id, htold⟩
    · rw [hsame]
      exact .refl e
    · rw [htold]
      exact .registerRoute e _ _ _ id

namespace Bridge
variable {b b' b'' : Bridge} {r : RouterId} {s : ServerId}

/-- All on a bridge that ownership is about. -/
def estate (b : Bridge) : Estate where
  titles := b.routers.map (·.router.table)
  holders := b.routers.map (·.holders)
  tenants := b.servers.map Server.tenant
  tables := b.engine.tables
  custody := b.engine.custody
  next := b.engine.next

theorem owned_estate : b.estate.Owned r ↔ b.isOwned r = true := by
  unfold isOwned
  rw [Bool.or_eq_true]
  refine or_congr ?_ ?_
  · show (∃ n, (b.routers.map (·.holders))[r]? = some (n + 1)) ↔ _
    rw [List.getElem?_map]
    cases b.routers[r]? with
    | none => simp
    | some mounted =>
      cases hholders : mounted.holders <;> simp [hholders]
  · rw [List.any_eq_true]
    constructor
    · rintro ⟨s, t, ht, hkept, hrouter⟩
      change (b.servers.map Server.tenant)[s]? = some t at ht
      rw [List.getElem?_map] at ht
      obtain ⟨server, hserver, rfl⟩ := Option.map_eq_some_iff.mp ht
      refine ⟨server, List.mem_of_getElem? hserver, ?_⟩
      change server.dropped = false at hkept
      change server.router = r at hrouter
      simp [hkept, hrouter]
    · rintro ⟨server, hserver, howns⟩
      obtain ⟨s, hs⟩ := List.mem_iff_getElem?.mp hserver
      simp only [Bool.and_eq_true, Bool.not_eq_true', beq_iff_eq] at howns
      exact ⟨s, server.tenant, by
        show (b.servers.map Server.tenant)[s]? = _
        rw [List.getElem?_map, hs]; rfl, howns⟩

/-! ### What leaves the estate -/

/-- What leaves the estate as it is, but for addresses that are handed out. -/
structure Aside (b b' : Bridge) : Prop where
  routers : b'.routers.map (fun m => (m.router.table, m.holders)) =
    b.routers.map fun m => (m.router.table, m.holders)
  servers : b'.servers.map Server.tenant = b.servers.map Server.tenant
  engine : b.engine.Idles b'.engine

namespace Aside

theorem refl (b : Bridge) : Aside b b := ⟨rfl, rfl, .refl _⟩

theorem trans (h : Aside b b') (h' : Aside b' b'') : Aside b b'' :=
  ⟨h'.routers.trans h.routers, h'.servers.trans h.servers, h.engine.trans h'.engine⟩

theorem steps (h : Aside b b') : Estate.Steps b.estate b'.estate := by
  have hsame : b'.estate = { b.estate with next := b'.engine.next } := by
    have htitles := congrArg (List.map Prod.fst) h.routers
    have hholders := congrArg (List.map Prod.snd) h.routers
    simp only [List.map_map] at htitles hholders
    unfold estate
    rw [h.servers, h.engine.tables, h.engine.custody]
    exact congrArg₂ (fun titles holders => Estate.mk titles holders _ _ _ _) htitles hholders
  rw [hsame]
  exact (Estate.Step.passes h.engine.next).steps

theorem of_engine {e : Engine} (h : b.engine.Idles e) : Aside b { b with engine := e } :=
  ⟨rfl, rfl, h⟩

theorem setRouter {router router' : Router} (h : b.router? r = some router)
    (htable : router'.table = router.table) : Aside b (b.setRouter r router') := by
  refine ⟨map_modify_eq_self ?_, rfl, .refl _⟩
  intro x hx
  obtain ⟨mounted, hmounted, rfl⟩ := mounted_of_router? h
  cases hx.symm.trans hmounted
  exact congrArg (·, _) htable

theorem changePhase {t : Transition} (h : b.changePhase r t = .ok b') : Aside b b' := by
  rcases b.changePhase_cases r t with ⟨misuse, hrefused, _⟩ | ⟨router, hrouter, _, hchange⟩
  · cases h.symm.trans hrefused
  · cases h.symm.trans hchange
    exact .setRouter hrouter rfl

theorem setStage {server : Server} (hserver : b.servers[s]? = some server) {e : Engine}
    (hengine : b.engine.Idles e) (stage : Stage) (hhandle : stage.handle? = server.stage.handle?) :
    Aside b ({ b with engine := e }.setStage s stage) := by
  refine ⟨rfl, map_modify_eq_self ?_, hengine⟩
  intro x hx
  cases hx.symm.trans hserver
  exact congrArg (Tenant.mk _ _) hhandle

end Aside

/-! ### Routers -/

theorem estate_addRouter (b : Bridge) : Estate.Steps b.estate b.addRouter.1.estate := by
  unfold addRouter
  rcases b.engine.createTable_cases with hnone | hsome
  · rw [hnone]
    exact .refl _
  · rw [hsome]
    refine .step (.founds (Nat.lt_add_of_pos_right b.engine.profile.stride_pos)) ?_
    dsimp only [estate]
    rw [List.map_append, List.map_append]
    exact .refl _

theorem estate_setHolders {mounted : Mounted} (hmounted : b.routers[r]? = some mounted)
    (holders : Nat) : (b.setHolders r holders).estate =
      { b.estate with holders := b.estate.holders.set r holders } := by
  have htitles : (b.setHolders r holders).routers.map (·.router.table) =
      b.routers.map (·.router.table) := map_modify_eq_self fun _ _ => rfl
  have hholders : (b.setHolders r holders).routers.map (·.holders) =
      (b.routers.map (·.holders)).set r holders := map_modify_eq_set hmounted
  unfold estate
  rw [htitles, hholders]
  rfl

theorem getElem?_holders {mounted : Mounted} (hmounted : b.routers[r]? = some mounted) :
    b.estate.holders[r]? = some mounted.holders := by
  show (b.routers.map (·.holders))[r]? = _
  rw [List.getElem?_map, hmounted]
  rfl

theorem getElem?_titles {mounted : Mounted} (hmounted : b.routers[r]? = some mounted) :
    b.estate.titles[r]? = some mounted.router.table := by
  show (b.routers.map (·.router.table))[r]? = _
  rw [List.getElem?_map, hmounted]
  rfl

theorem getElem?_tenants {server : Server} (hserver : b.servers[s]? = some server) :
    b.estate.tenants[s]? = some server.tenant := by
  show (b.servers.map Server.tenant)[s]? = _
  rw [List.getElem?_map, hserver]
  rfl

theorem server_of_tenant {t : Tenant} (h : b.estate.tenants[s]? = some t) :
    ∃ server, b.servers[s]? = some server ∧ server.tenant = t := by
  change (b.servers.map Server.tenant)[s]? = some t at h
  rw [List.getElem?_map] at h
  exact Option.map_eq_some_iff.mp h

theorem estate_shareRouter (b : Bridge) (r : RouterId) :
    Estate.Steps b.estate (b.shareRouter r).estate := by
  unfold shareRouter
  split
  · next mounted hmounted =>
    split
    · next howned =>
      rw [estate_setHolders hmounted]
      exact (Estate.Step.shares (owned_estate.mpr howned) (getElem?_holders hmounted)).steps
    · exact .refl _
  · exact .refl _

/-- A router that one owner has given up loses its table with the last one. -/
theorem estate_freeIfUnowned (hgives : Estate.GivesUp r b.estate b'.estate) {mounted : Mounted}
    (hmounted : b'.routers[r]? = some mounted) :
    Estate.Steps b.estate (b'.freeIfUnowned r).estate := by
  have htitle : b.estate.titles[r]? = some mounted.router.table := by
    rw [← hgives.same.1]
    exact getElem?_titles hmounted
  unfold freeIfUnowned
  rw [hmounted]
  dsimp only
  split
  · next howned => exact (Estate.Step.loosens hgives (owned_estate.mpr howned)).steps
  · next hunowned =>
    exact (Estate.Step.frees hgives (fun howned => hunowned (owned_estate.mp howned)) htitle).steps

theorem estate_dropRouter (b : Bridge) (r : RouterId) :
    Estate.Steps b.estate (b.dropRouter r).estate := by
  unfold dropRouter
  split
  · next router holders hmounted =>
    have hgives : Estate.GivesUp r b.estate (b.setHolders r holders).estate := by
      rw [estate_setHolders hmounted]
      exact .holder (getElem?_holders hmounted)
    have hthere : (b.setHolders r holders).routers[r]? = some ⟨router, holders⟩ := by
      unfold setHolders
      rw [List.getElem?_modify, hmounted]
      simp
    exact estate_freeIfUnowned hgives hthere
  · exact .refl _

theorem aside_addStage (b : Bridge) (r : RouterId) (stage : Middleware) :
    Aside b ((b.addStage r stage).toOption.getD b) := by
  unfold addStage
  split
  · next router hrouter =>
    cases hadd : router.addStage stage with
    | error misuse => exact .refl b
    | ok router' =>
      obtain ⟨_, rfl⟩ := Router.addStage_eq_ok hadd
      exact .setRouter hrouter rfl
  · exact .refl b

theorem aside_addRoute (b : Bridge) (r : RouterId) (path : String) (route : Route) :
    Aside b (b.addRoute r path route).1 := by
  unfold addRoute
  split
  · next router hrouter =>
    obtain ⟨htable, hidles⟩ := Router.lasts_table.addRoute router b.engine .get path route
    obtain ⟨hrouters, hservers, _⟩ := Aside.setRouter hrouter htable
    exact ⟨hrouters, hservers, hidles⟩
  · exact .refl b

theorem aside_addGroup (b : Bridge) (r : RouterId) (base : String) (stages : List Middleware)
    (items : List Declaration) : Aside b (b.addGroup r base stages items).1 := by
  unfold addGroup
  split
  · next router hrouter =>
    obtain ⟨htable, hidles⟩ :=
      Router.lasts_addGroup Router.lasts_table router b.engine base stages items
    obtain ⟨hrouters, hservers, _⟩ := Aside.setRouter hrouter htable
    exact ⟨hrouters, hservers, hidles⟩
  · exact .refl b

/-! ### Servers -/

theorem estate_addServer (b : Bridge) (r : RouterId) (port : UInt16) (limits : Frame.Limits) :
    Estate.Steps b.estate (b.addServer r port limits).estate := by
  unfold addServer
  split
  · next howned =>
    refine .step (.settles (owned_estate.mpr howned)) ?_
    dsimp only [estate]
    rw [List.map_append]
    exact .refl _
  · exact .refl _

theorem aside_beginStart (b : Bridge) (s : ServerId) : Aside b (b.beginStart s).bridge := by
  unfold beginStart
  split
  · exact .refl b
  next server hserver =>
  split
  · exact .refl b
  next hbusy =>
  split
  · exact .refl b
  · next x hchange =>
    have haside := Aside.changePhase hchange
    have hthere : x.servers[s]? = some server := by
      rw [(quiet_changePhase hchange).servers]
      exact mem_of_server? hserver
    exact haside.trans (.setStage hthere (.refl _) _ rfl)

theorem estate_setStage {server : Server} (hserver : b.servers[s]? = some server) (e : Engine)
    (stage : Stage) : ({ b with engine := e }.setStage s stage).estate = { b.estate with
      tenants := b.estate.tenants.set s { server.tenant with handle := stage.handle? }
      tables := e.tables
      custody := e.custody
      next := e.next } := by
  have htenants : ({ b with engine := e }.setStage s stage).servers.map Server.tenant =
      (b.servers.map Server.tenant).set s { server.tenant with handle := stage.handle? } :=
    map_modify_eq_set hserver
  unfold estate
  rw [htenants]
  rfl

theorem aside_failStart {server : Server} (hserver : b.servers[s]? = some server)
    (hhandle : (Stage.resting server.stage.handle?).handle? = server.stage.handle?) (event : String)
    {message : Engine → Engine × String} (hmessage : ∀ e : Engine, e.Idles (message e).1) :
    Aside b (b.failStart s server event message).bridge := by
  have hset : Aside b (b.setStage s (.resting server.stage.handle?)) :=
    .setStage hserver (.refl _) _ hhandle
  unfold failStart
  dsimp only
  split
  · exact hset
  · next x hback =>
    refine (hset.trans (.changePhase hback)).trans ?_
    exact ⟨rfl, rfl, hmessage x.engine⟩

theorem estate_started {server : Server} (hserver : b.server? s = some server)
    (hidle : server.stage.handle? = none) {e : Engine} {handle : Address}
    (hstart : b.engine.startServer server.port (b.routers[server.router]?.map (·.router.table)) =
      (e, some handle)) :
    Estate.Step b.estate (setStage { b with engine := e } s (.running handle)).estate := by
  obtain ⟨hthere, hkept⟩ := Option.filter_eq_some_iff.mp hserver
  have hkept' : server.tenant.dropped = false := by simpa [Server.tenant] using hkept
  have hhandle := Engine.handle_of_startServer hstart
  rw [estate_setStage hthere, Engine.startServer_eq_some hstart, hhandle, ← List.getElem?_map]
  exact .starts server.port (getElem?_tenants hthere) hkept' hidle
    (Nat.lt_add_of_pos_right b.engine.profile.stride_pos)

theorem estate_stepStart (hheld : b.Held) (s : ServerId) :
    Estate.Steps b.estate (b.stepStart s).bridge.estate := by
  unfold stepStart
  split
  · exact .refl _
  next server hserver =>
  have hthere := mem_of_server? hserver
  split
  · next handle hstage =>
    split
    · next message hattach =>
      refine (aside_failStart hthere ?_ _ fun e : Engine => .refl e).steps
      rw [hstage]
      cases handle <;> rfl
    · next e hattach =>
      -- the place is free, so a server that begins to start does not run
      have hidle : server.stage.handle? = none := by
        cases handle with
        | none => rw [hstage]; rfl
        | some a =>
          have hseated := (hheld.seated.attached hthere).mpr (by rw [hstage]; rfl)
          cases (Engine.attach_eq_ok hattach).1.symm.trans hseated
      exact (Aside.setStage hthere (.attach hattach) .launching hidle.symm).steps
  · next hstage =>
    have hidle : server.stage.handle? = none := by rw [hstage]; rfl
    dsimp only
    split
    · next e hstart =>
      exact (Aside.setStage hthere (.startFailed hstart) .abandoning hidle.symm).steps
    · next e handle hstart =>
      have hstarted := (estate_started hserver hidle hstart).steps
      split
      · exact hstarted
      · next x hcommit =>
        obtain ⟨hrouters, hservers, hengine⟩ := Aside.changePhase hcommit
        exact hstarted.trans (Aside.steps ⟨hrouters, hservers, hengine⟩)
  · next hstage =>
    have hleft : Aside b { b with engine := b.engine.detach } := .of_engine (.detach _)
    have hresting : (Stage.resting server.stage.handle?).handle? = server.stage.handle? := by
      rw [hstage]
      rfl
    exact (hleft.trans (aside_failStart (b := { b with engine := b.engine.detach }) hthere hresting _
      .takeError)).steps
  · exact .refl _

theorem estate_stepStop (b : Bridge) (s : ServerId) :
    Estate.Steps b.estate (b.stepStop s).estate := by
  unfold stepStop
  split
  · exact .refl _
  next server hserver =>
  have hthere := mem_of_server? hserver
  split
  · next handle hstage =>
    rw [estate_setStage hthere]
    refine (Estate.Step.stops (getElem?_tenants hthere) ?_).steps
    show server.stage.handle? = some handle
    rw [hstage]
    rfl
  · next hstage =>
    have hidle : server.stage.handle? = none := by rw [hstage]; rfl
    obtain ⟨hrouters, hservers, hengine⟩ :=
      Aside.setStage hthere (.detach b.engine) .idle hidle.symm
    exact Aside.steps ⟨hrouters, hservers, hengine⟩
  · exact .refl _

theorem estate_stop (b : Bridge) (s : ServerId) : Estate.Steps b.estate (b.stop s).estate :=
  (b.estate_stepStop s).trans (estate_stepStop _ s)

/-- A server that is not starting has no handle once it is stopped. -/
theorem handle?_stopped {server : Server} (hstarting : server.isStarting = false) :
    server.stage.stopped.stopped.handle? = none := by
  unfold Server.isStarting at hstarting
  cases hstage : server.stage <;> rw [hstage] at hstarting <;> first | rfl | cases hstarting

theorem server?_stop {server : Server} (hserver : b.server? s = some server) :
    (b.stop s).server? s = some { server with stage := server.stage.stopped.stopped } :=
  server?_stepStop (server?_stepStop hserver)

theorem estate_dropped {server : Server} (hserver : b.servers[s]? = some server) :
    { b with
      servers := b.servers.modify s fun server => { server with dropped := true } }.estate =
      { b.estate with tenants := b.estate.tenants.set s { server.tenant with dropped := true } } := by
  have htenants : (b.servers.modify s fun server => { server with dropped := true }).map
      Server.tenant = (b.servers.map Server.tenant).set s { server.tenant with dropped := true } :=
    map_modify_eq_set hserver
  unfold estate
  rw [htenants]

/-- A server has a router. -/
theorem mounted_of_server (hkept : b.estate.Kept) {server : Server}
    (hserver : b.servers[s]? = some server) :
    ∃ mounted, b.routers[server.router]? = some mounted := by
  have hroom := hkept.rooted s _ (getElem?_tenants hserver)
  rw [estate, List.length_map] at hroom
  exact ⟨_, List.getElem?_eq_getElem hroom⟩

/-- A server that does not run is given up, and lets its router go. -/
theorem estate_giveUp (hkept : b.estate.Kept) {server : Server}
    (hserver : b.server? s = some server)
    (hidle : server.stage.handle? = none) :
    Estate.Steps b.estate (freeIfUnowned
      { b with servers := b.servers.modify s fun server => { server with dropped := true } }
      server.router).estate := by
  obtain ⟨hthere, hdropped⟩ := Option.filter_eq_some_iff.mp hserver
  obtain ⟨mounted, hmounted⟩ := mounted_of_server hkept hthere
  refine estate_freeIfUnowned ?_ hmounted
  rw [estate_dropped hthere]
  exact .tenant (getElem?_tenants hthere) rfl (by simpa [Server.tenant] using hdropped) hidle

/-- A server that is not starting is given up once it has stopped. -/
theorem estate_dropStopped (hkept : b.estate.Kept) {server : Server}
    (hserver : b.server? s = some server) (hstarting : server.isStarting = false) :
    Estate.Steps (b.stop s).estate (b.dropServer s).estate := by
  have hgive := estate_giveUp (hkept.steps (b.estate_stop s)) (server?_stop hserver)
    (handle?_stopped hstarting)
  unfold dropServer
  rw [hserver]
  dsimp only
  rw [if_neg (Bool.eq_false_iff.mp hstarting)]
  exact hgive

theorem estate_dropServer (hkept : b.estate.Kept) (s : ServerId) :
    Estate.Steps b.estate (b.dropServer s).estate := by
  cases hserver : b.server? s with
  | none =>
    unfold dropServer
    rw [hserver]
    exact .refl _
  | some server =>
    cases hstarting : server.isStarting with
    | true =>
      unfold dropServer
      rw [hserver]
      dsimp only
      rw [if_pos hstarting]
      exact .refl _
    | false => exact (b.estate_stop s).trans (estate_dropStopped hkept hserver hstarting)

/-! ### Every move -/

theorem next_run {os : List Occurrence} (h : Unfolds b os b') (ho : b.Orderly) :
    b.engine.next ≤ b'.engine.next := by
  induction h with
  | refl => exact Nat.le_refl _
  | step hstep _ ih => exact Nat.le_trans (hstep.handsOut ho).contexts.le (ih (hstep.orderly ho))

theorem aside_of_tends (ho : b.Orderly) {m : Move} (h : Tends b (b.apply m)) :
    Aside b (b.apply m) := by
  obtain ⟨os, hos, _⟩ := leads_apply ho m
  refine ⟨by rw [h.routers], by rw [h.servers], ?_, ?_, next_run hos ho⟩
  · exact congrArg Engine.Holdings.tables h.engine
  · exact Engine.custody_of_holdings h.engine

theorem estate_stepStarts (ho : b.Orderly) (hheld : b.Held) (s : ServerId) (n : Nat) :
    Estate.Steps b.estate (b.run (List.replicate n (.stepStart s))).estate := by
  induction n generalizing b with
  | zero => exact .refl _
  | succ n ih =>
    refine (estate_stepStart hheld s).trans ?_
    exact ih ((leads_apply ho (.stepStart s)).orderly ho)
      ((hands_apply ho (.stepStart s)).held hheld)

/-- Every move is made of the steps of an estate. -/
theorem estate_apply (ho : b.Orderly) (hheld : b.Held) (hkept : b.estate.Kept) (m : Move) :
    Estate.Steps b.estate (b.apply m).estate := by
  cases hmanaged : m.isManagement with
  | false => exact (aside_of_tends ho (tends_apply ho m hmanaged)).steps
  | true =>
    cases m with
    | addRouter => exact b.estate_addRouter
    | shareRouter r => exact b.estate_shareRouter r
    | dropRouter r => exact b.estate_dropRouter r
    | addStage r stage => exact (b.aside_addStage r stage).steps
    | addRoute r path route => exact (b.aside_addRoute r path route).steps
    | addGroup r base stages items => exact (b.aside_addGroup r base stages items).steps
    | changePhase r t =>
      cases hchange : b.changePhase r t with
      | error misuse =>
        dsimp only [apply]
        rw [hchange]
        exact .refl _
      | ok x =>
        dsimp only [apply]
        rw [hchange]
        exact (Aside.changePhase hchange).steps
    | addServer r port limits => exact b.estate_addServer r port limits
    | beginStart s => exact (b.aside_beginStart s).steps
    | stepStart s => exact estate_stepStart hheld s
    | stepStop s => exact b.estate_stepStop s
    | start s =>
      obtain ⟨n, hn⟩ := b.start_eq_run s
      dsimp only [apply]
      rw [hn]
      exact (b.aside_beginStart s).steps.trans (estate_stepStarts
        ((leads_apply ho (.beginStart s)).orderly ho)
        ((hands_apply ho (.beginStart s)).held hheld) s n)
    | stop s => exact b.estate_stop s
    | dropServer s => exact estate_dropServer hkept s
    | failStarts failing => exact (Aside.of_engine ⟨rfl, rfl, Nat.le_refl _⟩).steps
    | refuseRoutes code => exact (Aside.of_engine ⟨rfl, rfl, Nat.le_refl _⟩).steps
    | exhaustTables exhausted => exact (Aside.of_engine ⟨rfl, rfl, Nat.le_refl _⟩).steps
    | _ => cases hmanaged

theorem kept_new (profile : Profile) : (Bridge.new profile).estate.Kept where
  rooted _ _ h := nomatch h
  vacant _ _ h := nomatch h
  apart _ _ _ _ _ h := nomatch h
  started _ _ _ h := nomatch h
  running _ _ _ h := nomatch h
  order := trivial
  even := rfl
  distinct := .nil
  fresh _ h := nomatch h
  created _ := iff_of_false List.not_mem_nil List.not_mem_nil
  freed _ _ h := nomatch h
  single := .nil
  tables _ := iff_of_false List.not_mem_nil (fun ⟨_, h, _⟩ => nomatch h)

theorem estate_run (ho : b.Orderly) (hheld : b.Held) (hkept : b.estate.Kept) (h : List Move) :
    Estate.Steps b.estate (b.run h).estate := by
  induction h generalizing b with
  | nil => exact .refl _
  | cons m rest ih =>
    have hstep := estate_apply ho hheld hkept m
    exact hstep.trans (ih ((leads_apply ho m).orderly ho) ((hands_apply ho m).held hheld)
      (hkept.steps hstep))

theorem kept_run (profile : Profile) (h : List Move) :
    ((Bridge.new profile).run h).estate.Kept :=
  (kept_new profile).steps
    (estate_run (orderly_new profile) (held_new profile) (kept_new profile) h)

end Bridge
end RequestBridge
