import RequestBridge.Proofs.Bridge.Standing
import RequestBridge.Proofs.Places
import RequestBridge.Proofs.Routing.Phases

/-! What happens on a bridge by the way.

All that may happen but for starts, stops and changes of phase by hand is routine: it leaves the
phases of the routers, the stages of the servers and the place at the engine
(`routine_apply`). -/
namespace RequestBridge

/-- A list after its elements have changed and fresh ones have come behind them. -/
structure Evolves {α : Type} (R : α → α → Prop) (fresh : α → Prop) (l l' : List α) : Prop where
  old : ∀ {i : Nat} {x}, l[i]? = some x → ∃ x', l'[i]? = some x' ∧ R x x'
  new : ∀ {i : Nat} {x'}, l'[i]? = some x' → (∃ x, l[i]? = some x ∧ R x x') ∨ fresh x'

namespace Evolves
variable {α : Type} {R : α → α → Prop} {fresh : α → Prop} {l l' l'' : List α}

theorem refl (hrefl : ∀ x, R x x) (l : List α) : Evolves R fresh l l :=
  ⟨fun h => ⟨_, h, hrefl _⟩, fun h => .inl ⟨_, h, hrefl _⟩⟩

theorem mono {R' : α → α → Prop} {fresh' : α → Prop} (hR : ∀ {x y}, R x y → R' x y)
    (hfresh : ∀ {x}, fresh x → fresh' x) (h : Evolves R fresh l l') : Evolves R' fresh' l l' := by
  refine ⟨?_, ?_⟩
  · intro i x hx
    obtain ⟨y, hy, hxy⟩ := h.old hx
    exact ⟨y, hy, hR hxy⟩
  · intro i y hy
    rcases h.new hy with ⟨x, hx, hxy⟩ | hnew
    · exact .inl ⟨x, hx, hR hxy⟩
    · exact .inr (hfresh hnew)

theorem trans (htrans : ∀ {x y z}, R x y → R y z → R x z)
    (hfresh : ∀ {x y}, fresh x → R x y → fresh y) (h : Evolves R fresh l l')
    (h' : Evolves R fresh l' l'') : Evolves R fresh l l'' := by
  refine ⟨?_, ?_⟩
  · intro i x hx
    obtain ⟨y, hy, hxy⟩ := h.old hx
    obtain ⟨z, hz, hyz⟩ := h'.old hy
    exact ⟨z, hz, htrans hxy hyz⟩
  · intro i z hz
    rcases h'.new hz with ⟨y, hy, hyz⟩ | hnew
    · rcases h.new hy with ⟨x, hx, hxy⟩ | hnew
      · exact .inl ⟨x, hx, htrans hxy hyz⟩
      · exact .inr (hfresh hnew hyz)
    · exact .inr hnew

theorem modify (hrefl : ∀ x, R x x) {i : Nat} {f : α → α} (hf : ∀ x, l[i]? = some x → R x (f x)) :
    Evolves R fresh l (l.modify i f) := by
  have hat : ∀ {j x}, l[j]? = some x → R x (if i = j then f x else x) := by
    intro j x hx
    by_cases hj : i = j
    · subst hj
      rw [if_pos rfl]
      exact hf x hx
    · rw [if_neg hj]
      exact hrefl x
  refine ⟨?_, ?_⟩
  · intro j x hx
    refine ⟨if i = j then f x else x, ?_, hat hx⟩
    rw [List.getElem?_modify, hx]
    split <;> rfl
  · intro j y hy
    rw [List.getElem?_modify] at hy
    obtain ⟨x, hx, hxy⟩ := Option.map_eq_some_iff.mp hy
    refine .inl ⟨x, hx, ?_⟩
    rw [← hxy]
    have hx' := hat hx
    split <;> rename_i hj <;> simp only [hj, if_true, if_false] at hx' <;> exact hx'

theorem concat (hrefl : ∀ x, R x x) {x : α} (hx : fresh x) : Evolves R fresh l (l ++ [x]) := by
  refine ⟨?_, ?_⟩
  · intro i y hy
    have hlt := (List.getElem?_eq_some_iff.mp hy).1
    exact ⟨y, by rw [List.getElem?_append_left hlt, hy], hrefl y⟩
  · intro i y hy
    rcases getElem?_concat_cases hy with hold | ⟨-, rfl⟩
    · exact .inl ⟨y, hold, hrefl y⟩
    · exact .inr hx

end Evolves

/-- Whether a call takes or leaves the place at the engine. -/
def Call.isSeating : Call → Bool
  | .attached _ => true
  | .detached => true
  | _ => false

/-- The server whose turns a move is made of. -/
def Move.actor? : Move → Option ServerId
  | .beginStart s => some s
  | .stepStart s => some s
  | .stepStop s => some s
  | .start s => some s
  | .stop s => some s
  | .dropServer s => some s
  | _ => none

/-- Whether a move is neither made of turns nor a change of phase by hand. -/
def Move.isRoutine : Move → Bool
  | .changePhase _ _ => false
  | m => m.actor?.isNone

namespace Engine

/-- An engine after calls that have to do neither with its servers nor with its place for one. -/
structure Spares (e e' : Engine) : Prop where
  attached : e'.attached = e.attached
  live : e'.servers = e.servers
  lastError : e'.lastError = e.lastError
  business : ∃ calls, e'.business = calls ++ e.business ∧ ∀ call ∈ calls, call.isSeating = false

namespace Spares
variable {e e' e'' : Engine}

theorem refl (e : Engine) : Spares e e := ⟨rfl, rfl, rfl, [], rfl, fun _ h => nomatch h⟩

theorem trans (h : Spares e e') (h' : Spares e' e'') : Spares e e'' := by
  obtain ⟨calls, hcalls, hspared⟩ := h.business
  obtain ⟨calls', hcalls', hspared'⟩ := h'.business
  refine ⟨h'.attached.trans h.attached, h'.live.trans h.live, h'.lastError.trans h.lastError,
    calls' ++ calls, ?_, ?_⟩
  · rw [hcalls', hcalls, List.append_assoc]
  · intro call hcall
    exact (List.mem_append.mp hcall).elim (hspared' call) (hspared call)

theorem of_holdings (h : e'.holdings = e.holdings) : Spares e e' :=
  ⟨congrArg Holdings.attached h, congrArg Holdings.servers h, congrArg Holdings.lastError h, [],
    congrArg Holdings.business h, fun _ h => nomatch h⟩

end Spares

theorem business_of_call {e e' : Engine} {call : Call} (hdealing : call.isDealing = false)
    (hjournal : e'.journal = call :: e.journal) : e'.business = call :: e.business := by
  unfold business
  rw [hjournal, List.filter_cons_of_pos (by simp [hdealing])]

theorem Spares.of_call {e e' : Engine} (call : Call) (hdealing : call.isDealing = false)
    (hseating : call.isSeating = false) (hjournal : e'.journal = call :: e.journal)
    (hattached : e'.attached = e.attached) (hlive : e'.servers = e.servers)
    (herror : e'.lastError = e.lastError) : Spares e e' := by
  refine ⟨hattached, hlive, herror, [call], business_of_call hdealing hjournal, ?_⟩
  intro other hother
  rw [List.mem_singleton.mp hother]
  exact hseating

theorem spares_createTable (e : Engine) : Spares e e.createTable.1 := by
  unfold createTable
  split
  · exact .refl e
  · exact .of_call (.tableCreated e.next) rfl rfl rfl rfl rfl rfl

theorem spares_freeTable (e : Engine) (table : Address) : Spares e (e.freeTable table) :=
  .of_call (.tableFreed table) rfl rfl rfl rfl rfl rfl

theorem spares_registerRoute (e : Engine) (table : Address) (method : Method) (pattern : Bytes)
    (route : UInt16) : Spares e (e.registerRoute table method pattern route).1 := by
  rw [registerRoute_eq]
  exact .of_call (.routeRegistered table method pattern route (e.codeFor table pattern)) rfl rfl rfl
    rfl rfl rfl

theorem attach_eq_ok {e e' : Engine} {s : ServerId} (h : e.attach s = .ok e') :
    e.attached = none ∧ e' = { e with attached := some s }.record (.attached s) := by
  unfold attach at h
  split at h
  · cases h
  · next hfree => exact ⟨Option.not_isSome_iff_eq_none.mp hfree, (Except.ok.inj h).symm⟩

theorem attach_eq_error {e : Engine} {s : ServerId} {message : String}
    (h : e.attach s = .error message) : e.attached.isSome = true ∧ message = e.profile.refusal := by
  unfold attach at h
  split at h
  · next hheld => exact ⟨hheld, (Except.error.inj h).symm⟩
  · cases h

theorem startServer_eq_none {e e' : Engine} {port : UInt16} {table : Option Address}
    (h : e.startServer port table = (e', none)) : ∃ message, e.failing = some message ∧
      e' = { e with lastError := message }.record (.startFailed port table) := by
  unfold startServer at h
  split at h
  · next message hfailing => exact ⟨message, hfailing, (congrArg Prod.fst h).symm⟩
  · cases congrArg Prod.snd h

theorem startServer_eq_some {e e' : Engine} {port : UInt16} {table : Option Address}
    {server : Address} (h : e.startServer port table = (e', some server)) :
    e' = { e with
      next := e.next + e.profile.stride
      servers := e.servers ++ [(server, port)] }.record (.serverStarted server port table) := by
  unfold startServer at h
  split at h
  · cases congrArg Prod.snd h
  · have hserver := Option.some.inj (congrArg Prod.snd h)
    rw [← hserver]
    exact (congrArg Prod.fst h).symm

end Engine

theorem Router.spares_addRoute (r : Router) (e : Engine) (method : Method) (path : String)
    (route : Route) : e.Spares (r.addRoute e method path route).engine := by
  have hspares : ∀ {id e' code}, RouteHost.registerRoute e r.table method
      (Utf8.encode (Path.join "" path)) id = (e', code) → e.Spares e' := by
    intro id e' code htold
    have h := e.spares_registerRoute r.table method (Utf8.encode (Path.join "" path)) id
    change e.registerRoute _ _ _ _ = _ at htold
    rwa [htold] at h
  rcases r.addRoute_cases e method path route with
    ⟨misuse, _, h⟩ | ⟨id, e', _, htold, h⟩ | ⟨id, e', code, _, htold, _, h⟩
  · rw [h]
    exact .refl e
  · rw [h]
    exact hspares htold
  · rw [h]
    exact hspares htold

theorem Router.spares_addGroup (r : Router) (e : Engine) (base : String) (stages : List Middleware)
    (items : List Declaration) : e.Spares (r.addGroup e base stages items).engine :=
  lasts_addGroup (P := fun x y => x.2.Spares y.2)
    ⟨fun x => .refl x.2, fun h h' => h.trans h', spares_addRoute⟩ r e base stages items

/-- A router that has just been made: it is being built and is not sealed. -/
def Router.IsFresh (r : Router) : Prop := r.phase = .building ∧ r.registry.isSealed = false

theorem Router.IsFresh.grows {r r' : Router} (h : r.IsFresh) (hgrows : r.Grows r') :
    r'.IsFresh := by
  rcases hgrows with rfl | ⟨_, hphase, hsealed, _⟩
  · exact h
  · exact ⟨hphase, hsealed.trans h.2⟩

/-- A server that may have been given up, and is the same otherwise. -/
def Server.Lasts (x y : Server) : Prop := y = { x with dropped := y.dropped }

theorem Server.Lasts.refl (x : Server) : Lasts x x := rfl

theorem Server.Lasts.trans {x y z : Server} (h : Lasts x y) (h' : Lasts y z) : Lasts x z := by
  unfold Lasts at h h' ⊢
  rw [h', h]

theorem Server.Lasts.stage {x y : Server} (h : Lasts x y) : y.stage = x.stage :=
  (congrArg Server.stage h :)

namespace Bridge

/-- What is done to a bridge by the way of things: no phase changes, no server comes to another
stage, and the place at the engine stays as it is. -/
structure Routine (b b' : Bridge) : Prop where
  routers : Evolves (fun x y => x.router.Grows y.router) (·.router.IsFresh) b.routers b'.routers
  servers : Evolves Server.Lasts (·.stage = .idle) b.servers b'.servers
  engine : b.engine.Spares b'.engine

variable {b b' b'' : Bridge} {s : ServerId}

theorem routers_refl (l : List Mounted) :
    Evolves (fun x y => x.router.Grows y.router) (·.router.IsFresh) l l :=
  .refl (fun x => .refl x.router) l

theorem servers_refl (l : List Server) : Evolves Server.Lasts (·.stage = .idle) l l :=
  .refl Server.Lasts.refl l

namespace Routine

theorem refl (b : Bridge) : Routine b b := ⟨routers_refl _, servers_refl _, .refl _⟩

theorem trans (h : Routine b b') (h' : Routine b' b'') : Routine b b'' :=
  ⟨h.routers.trans (fun h h' => h.trans h') (fun h hgrows => h.grows hgrows) h'.routers,
    h.servers.trans (fun h h' => h.trans h') (fun h hlasts => hlasts.stage.trans h) h'.servers,
    h.engine.trans h'.engine⟩

theorem of_engine {e : Engine} (h : b.engine.Spares e) : Routine b { b with engine := e } :=
  ⟨routers_refl _, servers_refl _, h⟩

theorem of_tends (h : Tends b b') : Routine b b' := by
  refine ⟨?_, ?_, .of_holdings h.engine⟩
  · rw [h.routers]
    exact routers_refl _
  · rw [h.servers]
    exact servers_refl _

end Routine

theorem routine_setRouter {r : RouterId} {router router' : Router}
    (hrouter : b.router? r = some router) (hgrows : router.Grows router') :
    Routine b (b.setRouter r router') := by
  refine ⟨?_, servers_refl _, .refl _⟩
  refine Evolves.modify (fun x => .refl x.router) ?_
  intro x hx
  obtain ⟨mounted, hmounted, rfl⟩ := mounted_of_router? hrouter
  cases hx.symm.trans hmounted
  exact hgrows

theorem routine_addRouter (b : Bridge) : Routine b b.addRouter.1 := by
  have hspares := b.engine.spares_createTable
  unfold addRouter
  split
  · next e htable =>
    rw [htable] at hspares
    exact .of_engine hspares
  · next e table htable =>
    rw [htable] at hspares
    exact ⟨.concat (fun x => .refl x.router) ⟨rfl, rfl⟩, servers_refl _, hspares⟩

theorem routine_setHolders (b : Bridge) (r : RouterId) (holders : Nat) :
    Routine b (b.setHolders r holders) :=
  ⟨.modify (fun x => .refl x.router) fun x _ => .refl x.router, servers_refl _, .refl _⟩

theorem routine_shareRouter (b : Bridge) (r : RouterId) : Routine b (b.shareRouter r) := by
  unfold shareRouter
  split
  · split
    · exact b.routine_setHolders r _
    · exact .refl b
  · exact .refl b

theorem routine_freeIfUnowned (b : Bridge) (r : RouterId) : Routine b (b.freeIfUnowned r) := by
  unfold freeIfUnowned
  split
  · split
    · exact .refl b
    · exact .of_engine (Engine.spares_freeTable _ _)
  · exact .refl b

theorem routine_dropRouter (b : Bridge) (r : RouterId) : Routine b (b.dropRouter r) := by
  unfold dropRouter
  split
  · exact (b.routine_setHolders r _).trans (routine_freeIfUnowned _ r)
  · exact .refl b

theorem routine_addStage (b : Bridge) (r : RouterId) (stage : Middleware) :
    Routine b ((b.addStage r stage).toOption.getD b) := by
  unfold addStage
  split
  · next router hrouter =>
    cases hadd : router.addStage stage with
    | error misuse => exact .refl b
    | ok router' => exact routine_setRouter hrouter (Router.grows_addStage hadd)
  · exact .refl b

theorem routine_addRoute (b : Bridge) (r : RouterId) (path : String) (route : Route) :
    Routine b (b.addRoute r path route).1 := by
  unfold addRoute
  split
  · next router hrouter =>
    have hset := routine_setRouter hrouter (router.grows_addRoute b.engine .get path route)
    have hspares := router.spares_addRoute b.engine .get path route
    exact ⟨hset.routers, hset.servers, hspares⟩
  · exact .refl b

theorem routine_addGroup (b : Bridge) (r : RouterId) (base : String) (stages : List Middleware)
    (items : List Declaration) : Routine b (b.addGroup r base stages items).1 := by
  unfold addGroup
  split
  · next router hrouter =>
    have hset := routine_setRouter hrouter (router.grows_addGroup b.engine base stages items)
    have hspares := router.spares_addGroup b.engine base stages items
    exact ⟨hset.routers, hset.servers, hspares⟩
  · exact .refl b

theorem routine_addServer (b : Bridge) (r : RouterId) (port : UInt16) (limits : Frame.Limits) :
    Routine b (b.addServer r port limits) := by
  unfold addServer
  split
  · exact ⟨routers_refl _, .concat Server.Lasts.refl rfl, .refl _⟩
  · exact .refl b

theorem routine_dropped (b : Bridge) (s : ServerId) :
    Routine b { b with
      servers := b.servers.modify s fun server => { server with dropped := true } } :=
  ⟨routers_refl _, .modify Server.Lasts.refl fun _ _ => rfl, .refl _⟩

theorem routine_apply (ho : b.Orderly) {m : Move} (hm : m.isRoutine = true) :
    Routine b (b.apply m) := by
  cases hmanaged : m.isManagement with
  | false => exact .of_tends (tends_apply ho m hmanaged)
  | true =>
    cases m with
    | addRouter => exact b.routine_addRouter
    | shareRouter r => exact b.routine_shareRouter r
    | dropRouter r => exact b.routine_dropRouter r
    | addStage r stage => exact b.routine_addStage r stage
    | addRoute r path route => exact b.routine_addRoute r path route
    | addGroup r base stages items => exact b.routine_addGroup r base stages items
    | addServer r port limits => exact b.routine_addServer r port limits
    | failStarts failing => exact .of_engine ⟨rfl, rfl, rfl, [], rfl, fun _ h => nomatch h⟩
    | refuseRoutes code => exact .of_engine ⟨rfl, rfl, rfl, [], rfl, fun _ h => nomatch h⟩
    | exhaustTables exhausted => exact .of_engine ⟨rfl, rfl, rfl, [], rfl, fun _ h => nomatch h⟩
    | _ => first | exact absurd hm Bool.false_ne_true | exact absurd hmanaged Bool.false_ne_true

end Bridge
end RequestBridge
