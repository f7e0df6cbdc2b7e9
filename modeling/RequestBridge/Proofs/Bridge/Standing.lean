import RequestBridge.Proofs.Bridge.Holdings
import RequestBridge.Proofs.Bridge.Independence

/-! What stands while requests come and go.

The stages around the chains of a router are those that were added to it, in order, and nothing
but the adding of one changes them (`globals_run`). The engine has one place for a server, and
the server that has it is the one whose stage says so (`seated_run`). -/
namespace RequestBridge

/-- Whether a server has the place at the engine. -/
def Stage.isSeated : Stage → Bool
  | .idle => false
  | .attaching handle => handle.isSome
  | _ => true

theorem Router.globals_addStage {r r' : Router} {stage : Middleware}
    (h : r.addStage stage = .ok r') : r'.registry.globals = r.registry.globals ++ [stage] := by
  unfold addStage allow at h
  split at h
  · cases hsealed : r.registry.isSealed <;> rw [hsealed] at h <;> cases h
    rfl
  · cases h

theorem Stage.isSeated_resting (handle : Option Address) :
    (Stage.resting handle).isSeated = handle.isSome := by
  cases handle <;> rfl

/-- A server that rests is at the stage that its handle says. -/
theorem Server.stage_of_not_isBusy {server : Server} (h : server.isBusy = false) :
    server.stage = .resting server.stage.handle? := by
  unfold isBusy isStarting at h
  cases hstage : server.stage <;> rw [hstage] at h <;> first | rfl | cases h

theorem Server.isSeated_of_not_isBusy {server : Server} (h : server.isBusy = false) :
    server.stage.isSeated = server.stage.handle?.isSome :=
  (congrArg Stage.isSeated (stage_of_not_isBusy h)).trans (Stage.isSeated_resting _)

namespace Bridge

/-- The stages around all chains of a router. Where there is no router there are none. -/
def globals (b : Bridge) (r : RouterId) : List Middleware :=
  (b.routers[r]?.map (·.router.registry.globals)).getD []

/-- The place at the engine belongs to the server whose stage says so. -/
def Seated (b : Bridge) : Prop :=
  ∀ s, b.engine.attached = some s ↔
    ∃ server, b.servers[s]? = some server ∧ server.stage.isSeated = true

/-- What neither takes nor leaves the place at the engine, nor adds a stage to a router. -/
structure Quiet (b b' : Bridge) : Prop where
  attached : b'.engine.attached = b.engine.attached
  servers : b'.servers = b.servers
  globals : b'.globals = b.globals

/-- What leaves the place at the engine where it belongs, and adds no stage to a router. -/
structure Steady (b b' : Bridge) : Prop where
  seated : b.Seated → b'.Seated
  globals : b'.globals = b.globals

variable {b b' b'' : Bridge}

namespace Quiet

theorem refl (b : Bridge) : Quiet b b := ⟨rfl, rfl, rfl⟩

theorem trans (h : Quiet b b') (h' : Quiet b' b'') : Quiet b b'' :=
  ⟨h'.attached.trans h.attached, h'.servers.trans h.servers, h'.globals.trans h.globals⟩

theorem of_routers (hattached : b'.engine.attached = b.engine.attached)
    (hservers : b'.servers = b.servers) (hrouters : b'.routers = b.routers) : Quiet b b' := by
  refine ⟨hattached, hservers, ?_⟩
  unfold Bridge.globals
  rw [hrouters]

/-- What is done with requests leaves the routers and the servers alone. -/
theorem of_tends (h : Tends b b') : Quiet b b' := of_routers h.attached h.servers h.routers

theorem of_engine {e : Engine} (h : e.attached = b.engine.attached) :
    Quiet b { b with engine := e } := of_routers h rfl rfl

theorem say (h : Quiet b b') (events : List Log.Event) : Quiet b (b'.say events) :=
  ⟨h.attached, h.servers, h.globals⟩

theorem steady (h : Quiet b b') : Steady b b' := by
  refine ⟨?_, h.globals⟩
  intro hseated s
  rw [h.attached, h.servers]
  exact hseated s

end Quiet

namespace Steady

theorem refl (b : Bridge) : Steady b b := (Quiet.refl b).steady

theorem trans (h : Steady b b') (h' : Steady b' b'') : Steady b b'' :=
  ⟨fun hseated => h'.seated (h.seated hseated), h'.globals.trans h.globals⟩

end Steady

/-! ### Routers -/

theorem mounted_of_router? {r : RouterId} {router : Router} (h : b.router? r = some router) :
    ∃ mounted, b.routers[r]? = some mounted ∧ mounted.router = router := by
  unfold router? at h
  split at h
  · exact Option.map_eq_some_iff.mp h
  · cases h

/-- A router changes, and the others stay where they are. -/
theorem getElem?_setRouter {r : RouterId} {mounted : Mounted} (h : b.routers[r]? = some mounted)
    (router : Router) (i : RouterId) :
    (b.setRouter r router).routers[i]? =
      if i = r then some { mounted with router } else b.routers[i]? := by
  unfold setRouter
  dsimp only
  rw [List.getElem?_modify]
  by_cases hi : i = r
  · subst hi
    simp [h]
  · simp [hi, Ne.symm hi]

theorem globals_of_router? {r : RouterId} {router : Router} (h : b.router? r = some router) :
    b.globals r = router.registry.globals := by
  obtain ⟨mounted, hmounted, rfl⟩ := mounted_of_router? h
  unfold globals
  rw [hmounted]
  rfl

theorem globals_setRouter {r : RouterId} {old : Router} (h : b.router? r = some old)
    (router : Router) (i : RouterId) :
    (b.setRouter r router).globals i = if i = r then router.registry.globals else b.globals i := by
  obtain ⟨mounted, hmounted, -⟩ := mounted_of_router? h
  unfold globals
  rw [getElem?_setRouter hmounted]
  split <;> rfl

/-- Another state of a router with the same stages. -/
theorem quiet_setRouter {r : RouterId} {old : Router} (h : b.router? r = some old)
    {router : Router} (hglobals : router.registry.globals = old.registry.globals) :
    Quiet b (b.setRouter r router) := by
  refine ⟨rfl, rfl, funext fun i => ?_⟩
  rw [globals_setRouter h]
  split
  · next hi => rw [hi, hglobals, globals_of_router? h]
  · rfl

theorem quiet_setHolders (b : Bridge) (r : RouterId) (holders : Nat) :
    Quiet b (b.setHolders r holders) := by
  refine ⟨rfl, rfl, funext fun i => ?_⟩
  unfold globals setHolders
  dsimp only
  rw [List.getElem?_modify]
  cases b.routers[i]? with
  | none => rfl
  | some mounted => by_cases hi : r = i <;> simp [hi]

theorem quiet_addRouter (b : Bridge) : Quiet b b.addRouter.1 := by
  have hattached : b.engine.createTable.1.attached = b.engine.attached := by
    unfold Engine.createTable
    split <;> rfl
  unfold addRouter
  split
  · next e htable =>
    rw [htable] at hattached
    exact .of_engine hattached
  · next e table htable =>
    rw [htable] at hattached
    refine ⟨hattached, rfl, funext fun i => ?_⟩
    unfold globals
    dsimp only
    by_cases hi : i < b.routers.length
    · rw [List.getElem?_append_left hi]
    · rw [List.getElem?_append_right (Nat.le_of_not_lt hi), List.getElem?_eq_none (Nat.le_of_not_lt hi)]
      cases i - b.routers.length <;> rfl

theorem quiet_freeIfUnowned (b : Bridge) (r : RouterId) : Quiet b (b.freeIfUnowned r) := by
  unfold freeIfUnowned
  split
  · split
    · exact .refl b
    · exact .of_engine rfl
  · exact .refl b

theorem quiet_shareRouter (b : Bridge) (r : RouterId) : Quiet b (b.shareRouter r) := by
  unfold shareRouter
  split
  · split
    · exact b.quiet_setHolders r _
    · exact .refl b
  · exact .refl b

theorem quiet_dropRouter (b : Bridge) (r : RouterId) : Quiet b (b.dropRouter r) := by
  unfold dropRouter
  split
  · exact (b.quiet_setHolders r _).trans (quiet_freeIfUnowned _ r)
  · exact .refl b

theorem quiet_changePhase {r : RouterId} {transition : Transition}
    (h : b.changePhase r transition = .ok b') : Quiet b b' := by
  unfold changePhase at h
  split at h
  · next router hrouter =>
    unfold Router.change at h
    split at h
    · cases h
      refine quiet_setRouter hrouter ?_
      dsimp only
      split <;> rfl
    · cases h
  · cases h

/-- To add routes leaves the stages of a router, and the place at the engine. -/
theorem lasts_globals : Router.Lasts fun x y =>
    y.2.attached = x.2.attached ∧ y.1.registry.globals = x.1.registry.globals := by
  refine ⟨fun _ => ⟨rfl, rfl⟩, fun h h' => ⟨h'.1.trans h.1, h'.2.trans h.2⟩, ?_⟩
  intro r e method path route
  unfold Router.addRoute
  split
  · exact ⟨rfl, rfl⟩
  · next id _ =>
    have hattached : (e.registerRoute r.table method (Utf8.encode (Path.join "" path))
        id).1.attached = e.attached := by rw [Engine.registerRoute_eq]; rfl
    dsimp only
    split
    · exact ⟨hattached, rfl⟩
    · exact ⟨hattached, rfl⟩

theorem quiet_addRoute (b : Bridge) (r : RouterId) (path : String) (route : Route) :
    Quiet b (b.addRoute r path route).1 := by
  unfold addRoute
  split
  · next router hrouter =>
    obtain ⟨hattached, hglobals⟩ := lasts_globals.addRoute router b.engine .get path route
    have hset := quiet_setRouter hrouter hglobals
    exact ⟨hattached, hset.servers, hset.globals⟩
  · exact .refl b

theorem quiet_addGroup (b : Bridge) (r : RouterId) (base : String) (stages : List Middleware)
    (items : List Declaration) : Quiet b (b.addGroup r base stages items).1 := by
  unfold addGroup
  split
  · next router hrouter =>
    obtain ⟨hattached, hglobals⟩ :=
      Router.lasts_addGroup lasts_globals router b.engine base stages items
    have hset := quiet_setRouter hrouter hglobals
    exact ⟨hattached, hset.servers, hset.globals⟩
  · exact .refl b

/-! ### Servers -/

/-- A server that comes to another stage: it takes the place if it has it then, and otherwise
leaves it. The other servers have no part in this. -/
theorem Seated.setStage (h : b.Seated) {s : ServerId} {server : Server}
    (hserver : b.servers[s]? = some server) (stage : Stage) {e : Engine}
    (hself : e.attached = some s ↔ stage.isSeated = true)
    (hothers : ∀ i, i ≠ s → (e.attached = some i ↔ b.engine.attached = some i)) :
    Seated ({ b with engine := e }.setStage s stage) := by
  intro i
  rw [getElem?_setStage]
  by_cases hi : s = i
  · subst hi
    rw [if_pos rfl]
    refine hself.trans ?_
    show _ ↔ ∃ server', b.servers[s]?.map _ = some server' ∧ _
    rw [hserver]
    simp
  · rw [if_neg hi]
    exact (hothers i fun his => hi his.symm).trans (h i)

theorem Seated.attached (h : b.Seated) {s : ServerId} {server : Server}
    (hserver : b.servers[s]? = some server) :
    b.engine.attached = some s ↔ server.stage.isSeated = true := by
  rw [h s, hserver]
  simp

/-- A server that comes to another stage and keeps the place, or stays without it. -/
theorem steady_setStage {s : ServerId} {server : Server} (hserver : b.servers[s]? = some server)
    {stage : Stage} (hstage : stage.isSeated = server.stage.isSeated) {e : Engine}
    (he : e.attached = b.engine.attached) :
    Steady b ({ b with engine := e }.setStage s stage) := by
  refine ⟨?_, rfl⟩
  intro hseated
  refine hseated.setStage hserver stage ?_ fun i _ => by rw [he]
  rw [he, hseated.attached hserver, hstage]

/-- A server that leaves the place. -/
theorem steady_leave {s : ServerId} {server : Server} (hserver : b.servers[s]? = some server)
    (hstage : server.stage.isSeated = true) {stage : Stage} (hleft : stage.isSeated = false) :
    Steady b ({ b with engine := b.engine.detach }.setStage s stage) := by
  refine ⟨?_, rfl⟩
  intro hseated
  have hattached := (hseated.attached hserver).mpr hstage
  refine hseated.setStage hserver stage ?_ ?_
  · rw [hleft]
    exact iff_of_false (fun h => nomatch h) Bool.false_ne_true
  · intro i hi
    refine iff_of_false (fun h => nomatch h) ?_
    intro h
    exact hi (Option.some.inj (h.symm.trans hattached))

/-- A server that takes the place while no one has it. -/
theorem steady_attach {s : ServerId} {server : Server} (hserver : b.servers[s]? = some server)
    {e : Engine} (hattach : b.engine.attach s = .ok e) {stage : Stage}
    (hstage : stage.isSeated = true) : Steady b ({ b with engine := e }.setStage s stage) := by
  refine ⟨?_, rfl⟩
  intro hseated
  unfold Engine.attach at hattach
  split at hattach
  · cases hattach
  · next hfree =>
    cases hattach
    refine hseated.setStage hserver stage (iff_of_true rfl hstage) ?_
    intro i hi
    refine iff_of_false (fun h => hi (Option.some.inj h).symm) ?_
    intro h
    rw [h] at hfree
    exact hfree rfl

theorem steady_addServer (b : Bridge) (r : RouterId) (port : UInt16) (limits : Frame.Limits) :
    Steady b (b.addServer r port limits) := by
  unfold addServer
  split
  · refine ⟨?_, rfl⟩
    intro hseated s
    refine (hseated s).trans ?_
    show _ ↔ ∃ server, (b.servers ++ [_])[s]? = some server ∧ _
    by_cases hs : s < b.servers.length
    · rw [List.getElem?_append_left hs]
    · rw [List.getElem?_append_right (Nat.le_of_not_lt hs),
        List.getElem?_eq_none (Nat.le_of_not_lt hs)]
      refine iff_of_false (fun ⟨_, h, _⟩ => nomatch h) ?_
      rintro ⟨server, hlast, hstage⟩
      cases hlen : s - b.servers.length with
      | zero =>
        rw [hlen] at hlast
        cases hlast
        cases hstage
      | succ n =>
        rw [hlen] at hlast
        cases hlast
  · exact .refl b

/-! ### Starts and stops -/

/-- The end of a start that failed goes on from where its server is back at rest. -/
theorem steady_failStart {s : ServerId} {server : Server} {event : String}
    {message : Engine → Engine × String}
    (hrest : Steady b' (b.setStage s (.resting server.stage.handle?)))
    (hmessage : ∀ e, (message e).1.attached = e.attached) :
    Steady b' (b.failStart s server event message).bridge := by
  unfold failStart
  dsimp only
  split
  · exact hrest
  · next x hx =>
    have hquiet : Quiet x { x with engine := (message x.engine).1 } := .of_engine (hmessage _)
    exact hrest.trans (((quiet_changePhase hx).trans hquiet).say _).steady

theorem steady_beginStart (b : Bridge) (s : ServerId) : Steady b (b.beginStart s).bridge := by
  unfold beginStart
  split
  · exact .refl b
  · next server hserver =>
    split
    · exact .refl b
    · next hbusy =>
      split
      · exact .refl b
      · next x hx =>
        have hquiet := quiet_changePhase hx
        have hthere : x.servers[s]? = some server := by
          rw [hquiet.servers]
          exact mem_of_server? hserver
        refine hquiet.steady.trans (steady_setStage (e := x.engine) hthere ?_ rfl)
        exact (Server.isSeated_of_not_isBusy (Bool.eq_false_iff.mpr hbusy)).symm

theorem attached_startServer (e : Engine) (port : UInt16) (table : Option Address) :
    (e.startServer port table).1.attached = e.attached := by
  unfold Engine.startServer
  split <;> rfl

theorem attached_takeError (e : Engine) : e.takeError.1.attached = e.attached := by
  unfold Engine.takeError
  split <;> rfl

theorem steady_stepStart (b : Bridge) (s : ServerId) : Steady b (b.stepStart s).bridge := by
  unfold stepStart
  split
  · exact .refl b
  next server hserver =>
  have hthere := mem_of_server? hserver
  split
  · next handle hstage =>
    split
    · refine steady_failStart (steady_setStage (e := b.engine) hthere ?_ rfl) fun _ => rfl
      rw [hstage, Stage.isSeated_resting]
      rfl
    · next e hattach => exact steady_attach hthere hattach rfl
  · next hstage =>
    have hattached := attached_startServer b.engine server.port
      (b.routers[server.router]?.map (·.router.table))
    dsimp only
    split
    · next e hstart =>
      rw [hstart] at hattached
      refine steady_setStage hthere ?_ hattached
      rw [hstage]
      rfl
    · next e handle hstart =>
      rw [hstart] at hattached
      have hrunning : Steady b ({ b with engine := e }.setStage s (.running handle)) := by
        refine steady_setStage hthere ?_ hattached
        rw [hstage]
        rfl
      split
      · exact hrunning
      · next x hx => exact hrunning.trans ((quiet_changePhase hx).say _).steady
  · next hstage =>
    refine steady_failStart (steady_leave hthere ?_ ?_) fun e => ?_
    · rw [hstage]
      rfl
    · rw [hstage]
      rfl
    · exact attached_takeError e
  · exact .refl b

theorem steady_finishStart (b : Bridge) (s : ServerId) (steps : Nat) :
    Steady b (b.finishStart s steps).1 := by
  induction steps generalizing b with
  | zero => exact .refl b
  | succ n ih =>
    have hstep := b.steady_stepStart s
    unfold finishStart
    split
    · next x outcome hx =>
      rw [hx] at hstep
      exact hstep
    · next x hx =>
      rw [hx] at hstep
      exact hstep.trans (ih x)

theorem steady_start (b : Bridge) (s : ServerId) : Steady b (b.start s).1 := by
  have hbegin := b.steady_beginStart s
  unfold start
  split
  · next x outcome hx =>
    rw [hx] at hbegin
    exact hbegin
  · next x hx =>
    rw [hx] at hbegin
    exact hbegin.trans (x.steady_finishStart s 3)

theorem steady_stepStop (b : Bridge) (s : ServerId) : Steady b (b.stepStop s) := by
  unfold stepStop
  split
  · exact .refl b
  next server hserver =>
  have hthere := mem_of_server? hserver
  split
  · next handle hstage =>
    refine steady_setStage hthere ?_ rfl
    rw [hstage]
    rfl
  · next hstage =>
    have hleave : Steady b ({ b with engine := b.engine.detach }.setStage s .idle) := by
      refine steady_leave hthere ?_ rfl
      rw [hstage]
      rfl
    exact hleave.trans ((Quiet.refl _).say _).steady
  · exact .refl b

theorem steady_stop (b : Bridge) (s : ServerId) : Steady b (b.stop s) :=
  (b.steady_stepStop s).trans (steady_stepStop _ s)

/-- To give a server up does not change its stage. -/
theorem steady_dropped (b : Bridge) (s : ServerId) :
    Steady b { b with
      servers := b.servers.modify s fun server => { server with dropped := true } } := by
  refine ⟨?_, rfl⟩
  intro hseated i
  refine (hseated i).trans ?_
  dsimp only
  rw [List.getElem?_modify]
  cases b.servers[i]? with
  | none => simp
  | some server => by_cases hi : s = i <;> simp [hi]

theorem steady_dropServer (b : Bridge) (s : ServerId) : Steady b (b.dropServer s) := by
  unfold dropServer
  split
  · exact .refl b
  · split
    · exact .refl b
    · exact ((b.steady_stop s).trans (steady_dropped _ s)).trans (quiet_freeIfUnowned _ _).steady

/-! ### Histories -/

/-- The stage that a move adds to a router, if it is accepted. -/
def stageTaken? (b : Bridge) (r : RouterId) : Move → Option Middleware
  | .addStage r' stage => if r' = r ∧ (b.addStage r' stage).isOk then some stage else none
  | _ => none

/-- The stages that are added to a router in a history, in order. -/
def stagesTaken (b : Bridge) (r : RouterId) : List Move → List Middleware
  | [] => []
  | m :: rest => (b.stageTaken? r m).toList ++ (b.apply m).stagesTaken r rest

theorem addStage_cases (b : Bridge) (r : RouterId) (stage : Middleware) :
    (∃ misuse, b.addStage r stage = .error misuse) ∨
      ∃ b', b.addStage r stage = .ok b' ∧ b'.engine = b.engine ∧ b'.servers = b.servers ∧
        ∀ i, b'.globals i = if i = r then b.globals r ++ [stage] else b.globals i := by
  unfold addStage
  cases hrouter : b.router? r with
  | none => exact .inl ⟨_, rfl⟩
  | some router =>
    dsimp only
    cases hadd : router.addStage stage with
    | error misuse => exact .inl ⟨_, rfl⟩
    | ok router' =>
      refine .inr ⟨_, rfl, rfl, rfl, ?_⟩
      intro i
      rw [globals_setRouter hrouter, globals_of_router? hrouter]
      rw [Router.globals_addStage hadd]

/-- Every move adds to the stages of a router what it is accepted for, and no move puts the
place at the engine into other hands than those of its server. -/
theorem apply_stands (ho : b.Orderly) (m : Move) :
    (b.Seated → (b.apply m).Seated) ∧
      ∀ r, (b.apply m).globals r = b.globals r ++ (b.stageTaken? r m).toList := by
  have hsteady : ∀ x, Steady b x → (∀ r, b.stageTaken? r m = none) →
      (b.Seated → x.Seated) ∧ ∀ r, x.globals r = b.globals r ++ (b.stageTaken? r m).toList := by
    intro x hx hnone
    refine ⟨hx.seated, ?_⟩
    intro r
    rw [hx.globals, hnone]
    exact (List.append_nil _).symm
  cases hm : m.isManagement with
  | false =>
    refine hsteady _ (Quiet.of_tends (tends_apply ho m hm)).steady ?_
    intro r
    cases m <;> first | rfl | cases hm
  | true =>
    cases m with
    | addStage r' stage =>
      rcases b.addStage_cases r' stage with ⟨misuse, h⟩ | ⟨x, h, hengine, hservers, hglobals⟩
      · dsimp only [apply, stageTaken?]
        rw [h]
        refine ⟨id, ?_⟩
        intro r
        rw [if_neg (fun hand => nomatch hand.2)]
        exact (List.append_nil _).symm
      · dsimp only [apply, stageTaken?]
        rw [h]
        refine ⟨?_, ?_⟩
        · intro hseated s
          show x.engine.attached = some s ↔ ∃ server, x.servers[s]? = some server ∧ _
          rw [hengine, hservers]
          exact hseated s
        · intro r
          refine (hglobals r).trans ?_
          by_cases hr : r' = r
          · rw [if_pos hr.symm, if_pos ⟨hr, rfl⟩, hr]
            rfl
          · rw [if_neg (fun h => hr h.symm), if_neg (fun hand => hr hand.1)]
            exact (List.append_nil _).symm
    | addRouter => exact hsteady _ b.quiet_addRouter.steady fun _ => rfl
    | shareRouter r => exact hsteady _ (b.quiet_shareRouter r).steady fun _ => rfl
    | dropRouter r => exact hsteady _ (b.quiet_dropRouter r).steady fun _ => rfl
    | addRoute r path route => exact hsteady _ (b.quiet_addRoute r path route).steady fun _ => rfl
    | addGroup r base stages items =>
      exact hsteady _ (b.quiet_addGroup r base stages items).steady fun _ => rfl
    | changePhase r transition =>
      refine hsteady _ ?_ fun _ => rfl
      dsimp only [apply]
      cases hphase : b.changePhase r transition with
      | error misuse => exact .refl b
      | ok x => exact (quiet_changePhase hphase).steady
    | addServer r port limits => exact hsteady _ (b.steady_addServer r port limits) fun _ => rfl
    | beginStart s => exact hsteady _ (b.steady_beginStart s) fun _ => rfl
    | stepStart s => exact hsteady _ (b.steady_stepStart s) fun _ => rfl
    | stepStop s => exact hsteady _ (b.steady_stepStop s) fun _ => rfl
    | start s => exact hsteady _ (b.steady_start s) fun _ => rfl
    | stop s => exact hsteady _ (b.steady_stop s) fun _ => rfl
    | dropServer s => exact hsteady _ (b.steady_dropServer s) fun _ => rfl
    | failStarts failing =>
      exact hsteady _ (Quiet.of_engine (e := { b.engine with failing }) rfl).steady fun _ => rfl
    | refuseRoutes code =>
      exact hsteady _ (Quiet.of_engine (e := { b.engine with refusing := code }) rfl).steady fun _ => rfl
    | exhaustTables exhausted =>
      exact hsteady _ (Quiet.of_engine (e := { b.engine with exhausted }) rfl).steady fun _ => rfl
    | _ => cases hm

theorem seated_new (profile : Profile) : (Bridge.new profile).Seated := by
  intro s
  refine iff_of_false (fun h => nomatch h) ?_
  rintro ⟨_, h, _⟩
  cases h

theorem run_stands (ho : b.Orderly) (h : List Move) :
    (b.Seated → (b.run h).Seated) ∧ ∀ r, (b.run h).globals r = b.globals r ++ b.stagesTaken r h := by
  induction h generalizing b with
  | nil => exact ⟨id, fun r => (List.append_nil _).symm⟩
  | cons m rest ih =>
    obtain ⟨hseated, hglobals⟩ := apply_stands ho m
    obtain ⟨hseated', hglobals'⟩ := ih ((leads_apply ho m).orderly ho)
    refine ⟨fun hnow => hseated' (hseated hnow), ?_⟩
    intro r
    rw [run_cons, hglobals', hglobals, List.append_assoc]
    rfl

/-- In every history the place at the engine belongs to the server whose stage says so. -/
theorem seated_run (profile : Profile) (h : List Move) : ((Bridge.new profile).run h).Seated :=
  (run_stands (orderly_new profile) h).1 (seated_new profile)

/-- In every history the stages around the chains of a router are those that were added to it. -/
theorem globals_run (profile : Profile) (h : List Move) (r : RouterId) :
    ((Bridge.new profile).run h).globals r = (Bridge.new profile).stagesTaken r h :=
  (run_stands (orderly_new profile) h).2 r

/-- A server that runs has the place at the engine. -/
theorem Seated.attached_of_isRunning (h : b.Seated) {s : ServerId} {server : Server}
    (hserver : b.servers[s]? = some server) (hrunning : server.isRunning = true) :
    b.engine.attached = some s := by
  refine (h.attached hserver).mpr ?_
  unfold Server.isRunning at hrunning
  cases hstage : server.stage <;> rw [hstage] at hrunning <;> first | rfl | exact hrunning

end Bridge
end RequestBridge
