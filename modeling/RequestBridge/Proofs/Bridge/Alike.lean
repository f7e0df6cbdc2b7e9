import RequestBridge.Proofs.Bridge.Traffic
import RequestBridge.Proofs.Engine.Alike

/-! Bridges that differ in their requests only, in who has given up and in the message that the
engine keeps of the last failure.

What is managed does not look at these: an operation on routers and servers does the same to
bridges that are alike, and leaves them alike (`Alike.apply`). The message alone comes to light, in
the last step of a start that fails. A whole start has put it there itself, so it ends alike as
well (`Alike.start`). -/
namespace RequestBridge

namespace Bridge

theorem getElem?_setStage (b : Bridge) (s : ServerId) (stage : Stage) (i : ServerId) :
    (b.setStage s stage).servers[i]? =
      if s = i then b.servers[i]?.map fun server => { server with stage } else b.servers[i]? := by
  unfold setStage
  dsimp only
  rw [List.getElem?_modify]
  by_cases hi : s = i <;> simp [hi]

theorem mem_of_server? {b : Bridge} {s : ServerId} {server : Server}
    (h : b.server? s = some server) : b.servers[s]? = some server :=
  (Option.filter_eq_some_iff.mp h).1

/-- Bridges that differ in their requests only, in who has given up and in the message of the last
failure. -/
structure Alike (b b' : Bridge) : Prop where
  engine : b.engine.Alike b'.engine
  routers : b'.routers = b.routers
  servers : b'.servers = b.servers
  nextTask : b'.nextTask = b.nextTask
  gates : b'.gates = b.gates
  halted : b'.halted = b.halted

namespace Alike
variable {b b' : Bridge}

theorem refl (b : Bridge) : b.Alike b := ⟨.refl _, rfl, rfl, rfl, rfl, rfl⟩

theorem symm (h : b.Alike b') : b'.Alike b :=
  ⟨h.engine.symm, h.routers.symm, h.servers.symm, h.nextTask.symm, h.gates.symm, h.halted.symm⟩

theorem trans {b'' : Bridge} (h : b.Alike b') (h' : b'.Alike b'') : b.Alike b'' :=
  ⟨h.engine.trans h'.engine, h'.routers.trans h.routers, h'.servers.trans h.servers,
    h'.nextTask.trans h.nextTask, h'.gates.trans h.gates, h'.halted.trans h.halted⟩

theorem routerAt (h : b.Alike b') (r : RouterId) : b'.routers[r]? = b.routers[r]? := by
  rw [h.routers]

theorem isOwned (h : b.Alike b') (r : RouterId) : b'.isOwned r = b.isOwned r := by
  unfold Bridge.isOwned
  rw [h.routers, h.servers]

theorem router? (h : b.Alike b') (r : RouterId) : b'.router? r = b.router? r := by
  unfold Bridge.router?
  rw [h.isOwned, h.routers]

theorem server? (h : b.Alike b') (s : ServerId) : b'.server? s = b.server? s := by
  unfold Bridge.server?
  rw [h.servers]

theorem withEngine (h : b.Alike b') {e e' : Engine} (he : e.Alike e') :
    Alike { b with engine := e } { b' with engine := e' } :=
  ⟨he, h.routers, h.servers, h.nextTask, h.gates, h.halted⟩

theorem withRouters (h : b.Alike b') (change : List Mounted → List Mounted) :
    Alike { b with routers := change b.routers } { b' with routers := change b'.routers } :=
  ⟨h.engine, congrArg change h.routers, h.servers, h.nextTask, h.gates, h.halted⟩

theorem withServers (h : b.Alike b') (change : List Server → List Server) :
    Alike { b with servers := change b.servers } { b' with servers := change b'.servers } :=
  ⟨h.engine, h.routers, congrArg change h.servers, h.nextTask, h.gates, h.halted⟩

theorem say (h : b.Alike b') (events events' : List Log.Event) :
    (b.say events).Alike (b'.say events') :=
  ⟨h.engine, h.routers, h.servers, h.nextTask, h.gates, h.halted⟩

theorem setRouter (h : b.Alike b') (r : RouterId) (router : Router) :
    (b.setRouter r router).Alike (b'.setRouter r router) := h.withRouters (·.modify r _)

theorem setHolders (h : b.Alike b') (r : RouterId) (holders : Nat) :
    (b.setHolders r holders).Alike (b'.setHolders r holders) := h.withRouters (·.modify r _)

theorem setStage (h : b.Alike b') (s : ServerId) (stage : Stage) :
    (b.setStage s stage).Alike (b'.setStage s stage) := h.withServers (·.modify s _)

/-! ### Routers -/

theorem addRouter (h : b.Alike b') : b.addRouter.1.Alike b'.addRouter.1 := by
  obtain ⟨hengine, htable⟩ := h.engine.createTable
  unfold Bridge.addRouter
  rcases heq : b.engine.createTable with ⟨e, table⟩
  rcases heq' : b'.engine.createTable with ⟨e', table'⟩
  rw [heq, heq'] at hengine htable
  cases htable
  cases table with
  | none => exact h.withEngine hengine
  | some table => exact (h.withEngine hengine).withRouters (· ++ [_])

theorem freeIfUnowned (h : b.Alike b') (r : RouterId) :
    (b.freeIfUnowned r).Alike (b'.freeIfUnowned r) := by
  unfold Bridge.freeIfUnowned
  rw [h.routerAt, h.isOwned]
  cases b.routers[r]? with
  | none => exact h
  | some mounted =>
    dsimp only
    split
    · exact h
    · exact h.withEngine (h.engine.freeTable _)

theorem shareRouter (h : b.Alike b') (r : RouterId) :
    (b.shareRouter r).Alike (b'.shareRouter r) := by
  unfold Bridge.shareRouter
  rw [h.routerAt, h.isOwned]
  cases b.routers[r]? with
  | none => exact h
  | some mounted =>
    dsimp only
    split
    · exact h.setHolders r _
    · exact h

theorem dropRouter (h : b.Alike b') (r : RouterId) : (b.dropRouter r).Alike (b'.dropRouter r) := by
  unfold Bridge.dropRouter
  rw [h.routerAt]
  rcases b.routers[r]? with _ | ⟨router, _ | holders⟩
  · exact h
  · exact h
  · exact (h.setHolders r _).freeIfUnowned r

/-- What may have become of two bridges that are alike: the same refusal, or bridges that are
alike again. -/
def Both {α : Type} (result result' : Except α Bridge) : Prop :=
  (∃ reason, result = .error reason ∧ result' = .error reason) ∨
    ∃ x x', result = .ok x ∧ result' = .ok x' ∧ x.Alike x'

theorem both_getD {α : Type} {result result' : Except α Bridge} (hboth : Both result result')
    (h : b.Alike b') : (result.toOption.getD b).Alike (result'.toOption.getD b') := by
  rcases hboth with ⟨reason, rfl, rfl⟩ | ⟨x, x', rfl, rfl, hx⟩
  · exact h
  · exact hx

theorem both_setRouter (h : b.Alike b') (r : RouterId) (result : Except Misuse Router) :
    Both (result.map (b.setRouter r)) (result.map (b'.setRouter r)) := by
  cases result with
  | error misuse => exact .inl ⟨misuse, rfl, rfl⟩
  | ok router => exact .inr ⟨_, _, rfl, rfl, h.setRouter r router⟩

theorem addStage (h : b.Alike b') (r : RouterId) (stage : Middleware) :
    Both (b.addStage r stage) (b'.addStage r stage) := by
  unfold Bridge.addStage
  rw [h.router?]
  cases b.router? r with
  | none => exact .inl ⟨_, rfl, rfl⟩
  | some router => exact h.both_setRouter r (router.addStage stage)

theorem changePhase (h : b.Alike b') (r : RouterId) (transition : Transition) :
    Both (b.changePhase r transition) (b'.changePhase r transition) := by
  unfold Bridge.changePhase
  rw [h.router?]
  cases b.router? r with
  | none => exact .inl ⟨_, rfl, rfl⟩
  | some router => exact h.both_setRouter r (router.change transition)

theorem addRoute (h : b.Alike b') (r : RouterId) (path : String) (route : Route) :
    (b.addRoute r path route).1.Alike (b'.addRoute r path route).1 ∧
      (b'.addRoute r path route).2 = (b.addRoute r path route).2 := by
  unfold Bridge.addRoute
  rw [h.router?]
  cases b.router? r with
  | none => exact ⟨h, rfl⟩
  | some router =>
    obtain ⟨hengine, hrouter, hresult⟩ := router.alike_addRoute h.engine .get path route
    dsimp only
    rw [hrouter]
    exact ⟨((h.withEngine hengine).setRouter r _).say _ _, hresult⟩

theorem addGroup (h : b.Alike b') (r : RouterId) (base : String) (stages : List Middleware)
    (items : List Declaration) :
    (b.addGroup r base stages items).1.Alike (b'.addGroup r base stages items).1 ∧
      (b'.addGroup r base stages items).2 = (b.addGroup r base stages items).2 := by
  unfold Bridge.addGroup
  rw [h.router?]
  cases b.router? r with
  | none => exact ⟨h, rfl⟩
  | some router =>
    obtain ⟨hengine, hrouter, hresult⟩ := router.alike_addGroup h.engine base stages items
    dsimp only
    rw [hrouter]
    exact ⟨((h.withEngine hengine).setRouter r _).say _ _, hresult⟩

/-! ### Servers -/

theorem addServer (h : b.Alike b') (r : RouterId) (port : UInt16) (limits : Frame.Limits) :
    (b.addServer r port limits).Alike (b'.addServer r port limits) := by
  unfold Bridge.addServer
  rw [h.isOwned]
  split
  · exact h.withServers (· ++ [_])
  · exact h

end Alike

end Bridge

namespace Bridge
variable {b b' : Bridge} {s : ServerId}

/-- If a server has still to ask for the message of its failure, it will be told the same. -/
def ToldAlike (s : ServerId) (b b' : Bridge) : Prop :=
  ∀ server, b.server? s = some server → server.stage = .abandoning →
    b'.engine.lastError = b.engine.lastError

theorem toldAlike_setStage {x x' : Bridge} {stage : Stage} (hstage : stage ≠ .abandoning) :
    ToldAlike s (x.setStage s stage) x' := by
  intro server hserver habandons
  have hthere := mem_of_server? hserver
  rw [getElem?_setStage, if_pos rfl] at hthere
  obtain ⟨old, -, rfl⟩ := Option.map_eq_some_iff.mp hthere
  exact absurd habandons hstage

theorem engine_changePhase {x : Bridge} {r : RouterId} {transition : Transition}
    (h : b.changePhase r transition = .ok x) : x.engine = b.engine := by
  unfold changePhase at h
  cases hrouter : b.router? r with
  | none =>
    rw [hrouter] at h
    cases h
  | some router =>
    rw [hrouter] at h
    dsimp only at h
    cases hchange : router.change transition with
    | error misuse =>
      rw [hchange] at h
      cases h
    | ok changed =>
      rw [hchange] at h
      cases h
      rfl

end Bridge

/-- What a step of a start leaves behind on bridges that are alike. It comes to the same, and so
does what follows, if the server is told the same. -/
structure Progress.Alike (s : ServerId) (told : Prop) (p p' : Progress) : Prop where
  bridge : p.bridge.Alike p'.bridge
  outcome : told → p'.outcome = p.outcome
  told : told → p.outcome = none → Bridge.ToldAlike s p.bridge p'.bridge

namespace Bridge.Alike
variable {b b' : Bridge}

theorem ended {x x' : Bridge} (h : x.Alike x') (s : ServerId) (told : Prop)
    (outcome : Except StartError Unit) :
    Progress.Alike s told ⟨x, some outcome⟩ ⟨x', some outcome⟩ :=
  ⟨h, fun _ => rfl, fun _ hnone => nomatch hnone⟩

theorem failStart (h : b.Alike b') (s : ServerId) (server : Server) (event : String)
    {message message' : Engine → Engine × String} {told : Prop}
    (hengine : ∀ e e' : Engine, e.Alike e' → (message e).1.Alike (message' e').1)
    (htext : told → (message' b'.engine).2 = (message b.engine).2) :
    (b.failStart s server event message).Alike s told (b'.failStart s server event message') := by
  have hstage := h.setStage s (.resting server.stage.handle?)
  unfold Bridge.failStart
  dsimp only
  rcases hstage.changePhase server.router .rollback with ⟨misuse, hx, hx'⟩ | ⟨x, x', hx, hx', hxx⟩
  · rw [hx, hx']
    exact hstage.ended s told _
  · rw [hx, hx']
    have hkept : x.engine = b.engine := (engine_changePhase hx :)
    have hkept' : x'.engine = b'.engine := (engine_changePhase hx' :)
    refine ⟨(hxx.withEngine (hengine _ _ hxx.engine)).say _ _, ?_, fun _ hnone => nomatch hnone⟩
    intro htold
    dsimp only
    rw [hkept, hkept', htext htold]

theorem beginStart (h : b.Alike b') (s : ServerId) :
    (b.beginStart s).Alike s True (b'.beginStart s) := by
  unfold Bridge.beginStart
  rw [h.server?]
  cases b.server? s with
  | none => exact h.ended s True _
  | some server =>
    dsimp only
    split
    · exact h.ended s True _
    rcases h.changePhase server.router .begin with ⟨misuse, hx, hx'⟩ | ⟨x, x', hx, hx', hxx⟩
    · rw [hx, hx']
      exact h.ended s True _
    · rw [hx, hx']
      exact ⟨hxx.setStage s _, fun _ => rfl,
        fun _ _ => toldAlike_setStage fun hstage => nomatch hstage⟩

theorem launch (h : b.Alike b') (s : ServerId) {server : Server}
    (hserver : b.server? s = some server) (hstage : server.stage = .launching) (told : Prop) :
    (b.stepStart s).Alike s told (b'.stepStart s) := by
  unfold Bridge.stepStart
  rw [h.server?, hserver]
  dsimp only
  rw [hstage, h.routerAt]
  dsimp only
  generalize b.routers[server.router]?.map (fun mounted => mounted.router.table) = table
  obtain ⟨hengine, hhandle⟩ := h.engine.startServer server.port table
  have herror := h.engine.lastError_startServer server.port table
  generalize b.engine.startServer server.port table = started at *
  generalize b'.engine.startServer server.port table = started' at *
  obtain ⟨e, handle⟩ := started
  obtain ⟨e', handle'⟩ := started'
  cases hhandle
  cases handle with
  | none => exact ⟨(h.withEngine hengine).setStage s _, fun _ => rfl, fun _ _ _ _ _ => herror rfl⟩
  | some handle =>
    have hrunning := (h.withEngine hengine).setStage s (.running handle)
    dsimp only
    rcases hrunning.changePhase server.router .commit with ⟨misuse, hx, hx'⟩ | ⟨x, x', hx, hx', hxx⟩
    · rw [hx, hx']
      exact hrunning.ended s told _
    · rw [hx, hx']
      exact (hxx.say _ _).ended s told _

theorem stepStart (h : b.Alike b') (s : ServerId) :
    (b.stepStart s).Alike s (ToldAlike s b b') (b'.stepStart s) := by
  cases hserver : b.server? s with
  | none =>
    unfold Bridge.stepStart
    rw [h.server?, hserver]
    exact ⟨h, fun _ => rfl, fun htold _ => htold⟩
  | some server =>
    cases hstage : server.stage with
    | launching => exact h.launch s hserver hstage _
    | attaching handle =>
      unfold Bridge.stepStart
      rw [h.server?, hserver]
      dsimp only
      rw [hstage]
      dsimp only
      rcases h.engine.attach s with ⟨message, hx, hx'⟩ | ⟨x, x', hx, hx', hxx⟩
      · rw [hx, hx']
        exact h.failStart s server _ (fun _ _ he => he) fun _ => rfl
      · rw [hx, hx']
        exact ⟨(h.withEngine hxx).setStage s _, fun _ => rfl,
          fun _ _ => toldAlike_setStage fun hstage => nomatch hstage⟩
    | abandoning =>
      unfold Bridge.stepStart
      rw [h.server?, hserver]
      dsimp only
      rw [hstage]
      refine (h.withEngine h.engine.detach).failStart s server _ ?_ ?_
      · exact fun _ _ he => he.takeError
      · intro htold
        have hsame : b'.engine.detach.lastError = b.engine.detach.lastError :=
          htold server hserver hstage
        exact congrArg (Option.getD · unexpected) (h.engine.detach.takeError_snd hsame)
    | _ =>
      unfold Bridge.stepStart
      rw [h.server?, hserver]
      dsimp only
      rw [hstage]
      exact ⟨h, fun _ => rfl, fun htold _ => htold⟩

theorem finishStart (h : b.Alike b') (s : ServerId) (steps : Nat) (htold : ToldAlike s b b') :
    (b.finishStart s steps).1.Alike (b'.finishStart s steps).1 ∧
      (b'.finishStart s steps).2 = (b.finishStart s steps).2 := by
  induction steps generalizing b b' with
  | zero => exact ⟨h, rfl⟩
  | succ n ih =>
    obtain ⟨hbridge, houtcome, hnext⟩ := h.stepStart s
    unfold Bridge.finishStart
    rcases heq : b.stepStart s with ⟨x, outcome⟩
    rcases heq' : b'.stepStart s with ⟨x', outcome'⟩
    rw [heq, heq'] at hbridge houtcome hnext
    cases houtcome htold
    cases outcome with
    | none => exact ih hbridge (hnext htold rfl)
    | some outcome => exact ⟨hbridge, rfl⟩

theorem start (h : b.Alike b') (s : ServerId) :
    (b.start s).1.Alike (b'.start s).1 ∧ (b'.start s).2 = (b.start s).2 := by
  obtain ⟨hbridge, houtcome, hnext⟩ := h.beginStart s
  unfold Bridge.start
  rcases heq : b.beginStart s with ⟨x, outcome⟩
  rcases heq' : b'.beginStart s with ⟨x', outcome'⟩
  rw [heq, heq'] at hbridge houtcome hnext
  cases houtcome trivial
  cases outcome with
  | none => exact hbridge.finishStart s 3 (hnext trivial rfl)
  | some outcome => exact ⟨hbridge, rfl⟩

theorem stepStop (h : b.Alike b') (s : ServerId) : (b.stepStop s).Alike (b'.stepStop s) := by
  unfold Bridge.stepStop
  rw [h.server?]
  cases b.server? s with
  | none => exact h
  | some server =>
    dsimp only
    cases server.stage with
    | running handle => exact (h.withEngine (h.engine.stopServer handle)).setStage s _
    | detaching => exact ((h.withEngine h.engine.detach).setStage s _).say _ _
    | _ => exact h

theorem stop (h : b.Alike b') (s : ServerId) : (b.stop s).Alike (b'.stop s) :=
  (h.stepStop s).stepStop s

theorem dropServer (h : b.Alike b') (s : ServerId) : (b.dropServer s).Alike (b'.dropServer s) := by
  unfold Bridge.dropServer
  rw [h.server?]
  cases b.server? s with
  | none => exact h
  | some server =>
    dsimp only
    split
    · exact h
    · exact ((h.stop s).withServers (·.modify s _)).freeIfUnowned server.router

/-- What is managed does not look at the requests, nor at who has given up or at what message the
engine keeps. -/
theorem apply (h : b.Alike b') (m : Move) (hm : m.isManagement = true) :
    (b.apply m).Alike (b'.apply m) := by
  cases m with
  | addRouter => exact h.addRouter
  | shareRouter r => exact h.shareRouter r
  | dropRouter r => exact h.dropRouter r
  | addStage r stage => exact both_getD (h.addStage r stage) h
  | addRoute r path route => exact (h.addRoute r path route).1
  | addGroup r base stages items => exact (h.addGroup r base stages items).1
  | changePhase r transition => exact both_getD (h.changePhase r transition) h
  | addServer r port limits => exact h.addServer r port limits
  | beginStart s => exact (h.beginStart s).bridge
  | stepStart s => exact (h.stepStart s).bridge
  | stepStop s => exact h.stepStop s
  | start s => exact (h.start s).1
  | stop s => exact h.stop s
  | dropServer s => exact h.dropServer s
  | failStarts failing =>
    obtain ⟨journal, cancelled, lastError, he⟩ := h.engine
    exact h.withEngine ⟨journal, cancelled, lastError, by rw [he]⟩
  | refuseRoutes code =>
    obtain ⟨journal, cancelled, lastError, he⟩ := h.engine
    exact h.withEngine ⟨journal, cancelled, lastError, by rw [he]⟩
  | exhaustTables exhausted =>
    obtain ⟨journal, cancelled, lastError, he⟩ := h.engine
    exact h.withEngine ⟨journal, cancelled, lastError, by rw [he]⟩
  | _ => cases hm

end Bridge.Alike
end RequestBridge
