import RequestBridge.Bridge.History
import RequestBridge.Proofs.Routing.Walk

/-! The traffic of a bridge: all that concerns its requests.

A bridge is two things in one. Its routers, its servers and what the engine knows of them are
managed; its requests come and go. What is managed never touches the traffic: each of the
operations on routers and servers leaves it as it is (`managed_apply`), so what is said of
requests has to be proved for the moves of requests only. -/
namespace RequestBridge

/-- Whether a call is about a request, and not about a table, a route or a server. -/
def Call.isDealing : Call → Bool
  | .completed _ _ => true
  | .released _ => true
  | .asked _ => true
  | .flagFreed _ => true
  | _ => false

namespace Engine

/-- The calls about requests, the latest first. -/
def dealings (e : Engine) : List Call := e.journal.filter Call.isDealing

/-- What an engine has to do with requests. -/
structure Traffic where
  issued : List Address
  cancelled : List Address
  dealings : List Call

def traffic (e : Engine) : Traffic := ⟨e.issued, e.cancelled, e.dealings⟩

/-! ### Calls about tables, routes and servers -/

/-- An engine after calls that are not about requests. It may have handed out addresses. -/
structure Managed (e e' : Engine) : Prop where
  traffic : e'.traffic = e.traffic
  next : e.next ≤ e'.next

namespace Managed
variable {e e' e'' : Engine}

theorem refl (e : Engine) : Managed e e := ⟨rfl, Nat.le_refl _⟩

theorem trans (h : Managed e e') (h' : Managed e' e'') : Managed e e'' :=
  ⟨h'.traffic.trans h.traffic, Nat.le_trans h.next h'.next⟩

end Managed

theorem traffic_record (e : Engine) (call : Call) (h : call.isDealing = false) :
    (e.record call).traffic = e.traffic := by
  simp [traffic, dealings, record, h]

theorem managed_createTable (e : Engine) : Managed e e.createTable.1 := by
  unfold createTable
  split
  · exact .refl e
  · exact ⟨traffic_record _ _ rfl, Nat.le_add_right ..⟩

theorem managed_freeTable (e : Engine) (table : Address) : Managed e (e.freeTable table) :=
  ⟨traffic_record _ _ rfl, Nat.le_refl _⟩

theorem managed_registerRoute (e : Engine) (table : Address) (method : Method) (pattern : Bytes)
    (route : UInt16) : Managed e (e.registerRoute table method pattern route).1 := by
  unfold registerRoute
  have hrecord := traffic_record e
    (.routeRegistered table method pattern route (e.codeFor table pattern)) rfl
  dsimp only
  split
  · exact ⟨hrecord, Nat.le_refl _⟩
  · exact ⟨hrecord, Nat.le_refl _⟩

theorem managed_startServer (e : Engine) (port : UInt16) (table : Option Address) :
    Managed e (e.startServer port table).1 := by
  unfold startServer
  split
  · exact ⟨traffic_record _ _ rfl, Nat.le_refl _⟩
  · exact ⟨traffic_record _ _ rfl, Nat.le_add_right ..⟩

theorem managed_stopServer (e : Engine) (server : Address) : Managed e (e.stopServer server) :=
  ⟨traffic_record _ _ rfl, Nat.le_refl _⟩

theorem managed_takeError (e : Engine) : Managed e e.takeError.1 := by
  unfold takeError
  split
  · exact .refl e
  · exact ⟨traffic_record _ _ rfl, Nat.le_refl _⟩

theorem managed_attach {e e' : Engine} {s : ServerId} (h : e.attach s = .ok e') : Managed e e' := by
  unfold attach at h
  split at h
  · cases h
  · cases h
    exact ⟨traffic_record _ _ rfl, Nat.le_refl _⟩

theorem managed_detach (e : Engine) : Managed e e.detach :=
  ⟨traffic_record _ _ rfl, Nat.le_refl _⟩

end Engine

/-! ### Routes -/

theorem Router.managed_addRoute (r : Router) (e : Engine) (method : Method) (path : String)
    (route : Route) : e.Managed (r.addRoute e method path route).engine := by
  unfold Router.addRoute
  split
  · exact .refl e
  · next id _ =>
    have h := e.managed_registerRoute r.table method (Utf8.encode (Path.join "" path)) id
    dsimp only
    split
    · exact h
    · exact h

theorem Router.managed_addGroup (r : Router) (e : Engine) (base : String)
    (stages : List Middleware) (items : List Declaration) :
    e.Managed (r.addGroup e base stages items).engine :=
  lasts_addGroup (P := fun x y => x.2.Managed y.2)
    ⟨fun x => .refl x.2, fun h h' => h.trans h', managed_addRoute⟩ r e base stages items

/-! ### Bridges -/

namespace Bridge

/-- All that concerns the requests of a bridge. -/
structure Traffic where
  engine : Engine.Traffic
  tasks : List Task
  nextTask : TaskId
  kept : List Address
  gates : List String
  halted : Bool
  metrics : Metrics
  marks : List String

def traffic (b : Bridge) : Traffic :=
  ⟨b.engine.traffic, b.tasks, b.nextTask, b.kept, b.gates, b.halted, b.metrics, b.marks⟩

/-- A bridge after something that is not about requests. -/
structure Managed (b b' : Bridge) : Prop where
  traffic : b'.traffic = b.traffic
  next : b.engine.next ≤ b'.engine.next

namespace Managed
variable {b b' b'' : Bridge}

theorem refl (b : Bridge) : Managed b b := ⟨rfl, Nat.le_refl _⟩

theorem trans (h : Managed b b') (h' : Managed b' b'') : Managed b b'' :=
  ⟨h'.traffic.trans h.traffic, Nat.le_trans h.next h'.next⟩

/-- Whatever becomes of the engine, the routers, the servers and the log. -/
theorem of_engine {e : Engine} (h : b.engine.Managed e) (routers : List Mounted)
    (servers : List Server) (log : List Log.Event) :
    Managed b { b with engine := e, routers, servers, log } := by
  refine ⟨?_, h.next⟩
  simp only [Bridge.traffic, h.traffic]

/-- A change of nothing but routers, servers and the log. -/
theorem of_lists (b : Bridge) (routers : List Mounted) (servers : List Server)
    (log : List Log.Event) : Managed b { b with routers, servers, log } :=
  of_engine (.refl _) routers servers log

end Managed

theorem managed_addRouter (b : Bridge) : b.Managed b.addRouter.1 := by
  have h := b.engine.managed_createTable
  unfold addRouter
  split
  · next engine heq =>
    rw [heq] at h
    exact .of_engine h _ _ _
  · next engine table heq =>
    rw [heq] at h
    exact .of_engine h _ _ _

theorem managed_setRouter (b : Bridge) (r : RouterId) (router : Router) :
    b.Managed (b.setRouter r router) := .of_lists b _ _ _

theorem managed_setHolders (b : Bridge) (r : RouterId) (holders : Nat) :
    b.Managed (b.setHolders r holders) := .of_lists b _ _ _

theorem managed_setStage (b : Bridge) (s : ServerId) (stage : Stage) :
    b.Managed (b.setStage s stage) := .of_lists b _ _ _

theorem managed_say (b : Bridge) (events : List Log.Event) : b.Managed (b.say events) :=
  .of_lists b _ _ _

theorem managed_withEngine (b : Bridge) {e : Engine} (h : b.engine.Managed e) :
    b.Managed { b with engine := e } := .of_engine h _ _ _

theorem managed_freeIfUnowned (b : Bridge) (r : RouterId) : b.Managed (b.freeIfUnowned r) := by
  unfold freeIfUnowned
  split
  · split
    · exact .refl b
    · exact b.managed_withEngine (b.engine.managed_freeTable _)
  · exact .refl b

theorem managed_shareRouter (b : Bridge) (r : RouterId) : b.Managed (b.shareRouter r) := by
  unfold shareRouter
  split
  · split
    · exact b.managed_setHolders r _
    · exact .refl b
  · exact .refl b

theorem managed_dropRouter (b : Bridge) (r : RouterId) : b.Managed (b.dropRouter r) := by
  unfold dropRouter
  split
  · exact (b.managed_setHolders r _).trans (managed_freeIfUnowned _ r)
  · exact .refl b

theorem managed_addStage {b b' : Bridge} {r : RouterId} {stage : Middleware}
    (h : b.addStage r stage = .ok b') : b.Managed b' := by
  unfold addStage at h
  split at h
  · next router _ =>
    cases hadd : router.addStage stage with
    | error misuse =>
      rw [hadd] at h
      cases h
    | ok router' =>
      rw [hadd] at h
      cases h
      exact b.managed_setRouter r router'
  · cases h

theorem managed_changePhase {b b' : Bridge} {r : RouterId} {transition : Transition}
    (h : b.changePhase r transition = .ok b') : b.Managed b' := by
  unfold changePhase at h
  split at h
  · next router _ =>
    cases hchange : router.change transition with
    | error misuse =>
      rw [hchange] at h
      cases h
    | ok router' =>
      rw [hchange] at h
      cases h
      exact b.managed_setRouter r router'
  · cases h

theorem managed_addRoute (b : Bridge) (r : RouterId) (path : String) (route : Route) :
    b.Managed (b.addRoute r path route).1 := by
  unfold addRoute
  split
  · next router _ => exact .of_engine (router.managed_addRoute b.engine .get path route) _ _ _
  · exact .refl b

theorem managed_addGroup (b : Bridge) (r : RouterId) (base : String) (stages : List Middleware)
    (items : List Declaration) : b.Managed (b.addGroup r base stages items).1 := by
  unfold addGroup
  split
  · next router _ => exact .of_engine (router.managed_addGroup b.engine base stages items) _ _ _
  · exact .refl b

theorem managed_addServer (b : Bridge) (r : RouterId) (port : UInt16) (limits : Frame.Limits) :
    b.Managed (b.addServer r port limits) := by
  unfold addServer
  split
  · exact .of_lists b _ _ _
  · exact .refl b

/-! ### Starts and stops -/

theorem managed_failStart (b : Bridge) (s : ServerId) (server : Server) (event : String)
    (message : Engine → Engine × String) (h : ∀ e : Engine, e.Managed (message e).1) :
    b.Managed (b.failStart s server event message).bridge := by
  have hstage := b.managed_setStage s (.resting server.stage.handle?)
  unfold failStart
  dsimp only
  split
  · exact hstage
  · next b' hchange => exact (hstage.trans (managed_changePhase hchange)).trans (.of_engine (h _) _ _ _)

theorem managed_beginStart (b : Bridge) (s : ServerId) : b.Managed (b.beginStart s).bridge := by
  unfold beginStart
  split
  · exact .refl b
  split
  · exact .refl b
  split
  · exact .refl b
  · next hchange => exact (managed_changePhase hchange).trans (managed_setStage _ s _)

theorem managed_stepStart (b : Bridge) (s : ServerId) : b.Managed (b.stepStart s).bridge := by
  unfold stepStart
  split
  · exact .refl b
  next server _ =>
  split
  · split
    · exact b.managed_failStart s server _ _ fun e => .refl e
    · next hattach =>
      exact (b.managed_withEngine (Engine.managed_attach hattach)).trans (managed_setStage _ s _)
  · have hstart := b.engine.managed_startServer server.port
      (b.routers[server.router]?.map (·.router.table))
    dsimp only
    split
    · next engine heq =>
      rw [heq] at hstart
      exact (b.managed_withEngine hstart).trans (managed_setStage _ s _)
    · next engine handle heq =>
      rw [heq] at hstart
      have hrunning := (b.managed_withEngine hstart).trans (managed_setStage _ s (.running handle))
      split
      · exact hrunning
      · next hchange =>
        exact (hrunning.trans (managed_changePhase hchange)).trans (managed_say _ _)
  · exact (b.managed_withEngine b.engine.managed_detach).trans
      (managed_failStart _ s server _ _ fun e => e.managed_takeError)
  · exact .refl b

theorem managed_finishStart (b : Bridge) (s : ServerId) (steps : Nat) :
    b.Managed (b.finishStart s steps).1 := by
  induction steps generalizing b with
  | zero => exact .refl b
  | succ n ih =>
    have hstep := b.managed_stepStart s
    unfold finishStart
    split
    · next heq =>
      rw [heq] at hstep
      exact hstep
    · next heq =>
      rw [heq] at hstep
      exact hstep.trans (ih _)

theorem managed_start (b : Bridge) (s : ServerId) : b.Managed (b.start s).1 := by
  have hbegin := b.managed_beginStart s
  unfold start
  split
  · next heq =>
    rw [heq] at hbegin
    exact hbegin
  · next heq =>
    rw [heq] at hbegin
    exact hbegin.trans (managed_finishStart _ s 3)

theorem managed_stepStop (b : Bridge) (s : ServerId) : b.Managed (b.stepStop s) := by
  unfold stepStop
  split
  · exact .refl b
  split
  · exact (b.managed_withEngine (b.engine.managed_stopServer _)).trans (managed_setStage _ s _)
  · exact ((b.managed_withEngine b.engine.managed_detach).trans (managed_setStage _ s _)).trans
      (managed_say _ _)
  · exact .refl b

theorem managed_stop (b : Bridge) (s : ServerId) : b.Managed (b.stop s) :=
  (b.managed_stepStop s).trans (managed_stepStop _ s)

theorem managed_dropServer (b : Bridge) (s : ServerId) : b.Managed (b.dropServer s) := by
  unfold dropServer
  split
  · exact .refl b
  split
  · exact .refl b
  · exact ((b.managed_stop s).trans (.of_lists _ _ _ _)).trans (managed_freeIfUnowned _ _)

end Bridge

/-- Whether a move is about routers and servers, or about what the engine will do with them. -/
def Move.isManagement : Move → Bool
  | .handOver .. => false
  | .sendFrame .. => false
  | .sendRequest _ => false
  | .cancel _ => false
  | .advance _ => false
  | .drive => false
  | .openGate _ => false
  | .halt => false
  | .askCopy _ => false
  | .dropCopy _ => false
  | _ => true

theorem Bridge.managed_orElse {α : Type} (b : Bridge) (result : Except α Bridge)
    (h : ∀ b', result = .ok b' → b.Managed b') : b.Managed (result.toOption.getD b) := by
  cases result with
  | error _ => exact .refl b
  | ok b' => exact h b' rfl

/-- What is managed never touches the traffic. -/
theorem Bridge.managed_apply (b : Bridge) (m : Move) (h : m.isManagement = true) :
    b.Managed (b.apply m) := by
  cases m with
  | addRouter => exact b.managed_addRouter
  | shareRouter r => exact b.managed_shareRouter r
  | dropRouter r => exact b.managed_dropRouter r
  | addStage r stage => exact b.managed_orElse _ fun _ => managed_addStage
  | addRoute r path route => exact b.managed_addRoute r path route
  | addGroup r base stages items => exact b.managed_addGroup r base stages items
  | changePhase r transition => exact b.managed_orElse _ fun _ => managed_changePhase
  | addServer r port limits => exact b.managed_addServer r port limits
  | beginStart s => exact b.managed_beginStart s
  | stepStart s => exact b.managed_stepStart s
  | stepStop s => exact b.managed_stepStop s
  | start s => exact b.managed_start s
  | stop s => exact b.managed_stop s
  | dropServer s => exact b.managed_dropServer s
  | failStarts failing => exact b.managed_withEngine ⟨rfl, Nat.le_refl _⟩
  | refuseRoutes code => exact b.managed_withEngine ⟨rfl, Nat.le_refl _⟩
  | exhaustTables exhausted => exact b.managed_withEngine ⟨rfl, Nat.le_refl _⟩
  | _ => cases h

end RequestBridge
