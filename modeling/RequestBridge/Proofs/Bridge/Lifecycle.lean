import RequestBridge.Proofs.Bridge.Turns

/-! The life of a router.

A router is built, starts and is started for good, or goes back to being built. What is asked of
it in the wrong phase is refused and leaves everything as it was. It is sealed from the moment
that it is started, and from then on nothing changes what its routes lead to, whatever becomes of
its servers (`router_is_safe`). -/
namespace RequestBridge

/-- A router that is sound stays so, and one that is started stays as it is. -/
def Router.Settles (r r' : Router) : Prop :=
  (r.Sound → r'.Sound) ∧ (r.phase = .started → r' = r)

theorem Router.Settles.refl (r : Router) : Settles r r := ⟨id, fun _ => rfl⟩

theorem Router.Settles.trans {r r' r'' : Router} (h : Settles r r') (h' : Settles r' r'') :
    Settles r r'' := by
  refine ⟨fun hsound => h'.1 (h.1 hsound), ?_⟩
  intro hstarted
  have hsame := h.2 hstarted
  rw [hsame] at h'
  exact h'.2 hstarted

theorem Router.Steps.settles {r r' : Router} (h : Steps r r') : Settles r r' :=
  ⟨h.sound, h.of_started⟩

theorem Router.IsFresh.sound {r : Router} (h : r.IsFresh) : r.Sound := by
  unfold Sound
  rw [h.1, h.2]
  exact iff_of_false Bool.false_ne_true (fun h => nomatch h)

/-- What of a server is the same for good. -/
def Server.Keeps (x y : Server) : Prop :=
  y.port = x.port ∧ y.router = x.router ∧ y.limits = x.limits

namespace Bridge
variable {b b' b'' : Bridge} {s : ServerId}

/-- The routers take one step at most, and new ones are fresh. -/
def Paces (b b' : Bridge) : Prop :=
  Evolves (fun x y => x.router.Steps y.router) (·.router.IsFresh) b.routers b'.routers

theorem Paces.refl (b : Bridge) : Paces b b := Evolves.refl (fun x => .refl x.router) _

theorem Paces.of_eq (h : b'.routers = b.routers) : Paces b b' := by
  unfold Paces
  rw [h]
  exact Paces.refl b

theorem Routine.paces (h : Routine b b') : Paces b b' := h.routers.mono Router.Grows.steps id

theorem Paces.append (h : Paces b b') (h' : b''.routers = b'.routers) : Paces b b'' := by
  unfold Paces
  rw [h']
  exact h

theorem paces_changePhase (b : Bridge) (r : RouterId) (t : Transition) :
    Paces b (b.apply (.changePhase r t)) := by
  dsimp only [apply]
  rcases b.changePhase_cases r t with ⟨misuse, h, _⟩ | ⟨router, hrouter, hphase, h⟩
  · rw [h]
    exact Paces.refl b
  · rw [h]
    refine Evolves.modify (fun x => .refl x.router) ?_
    intro x hx
    obtain ⟨mounted, hmounted, rfl⟩ := mounted_of_router? hrouter
    cases hx.symm.trans hmounted
    exact .inr ⟨t, Router.change_of_source hphase⟩

theorem Turn.paces {x : Bridge} (h : Turn s b x) : Paces b x := by
  have hpaces : ∀ {y : Bridge} {r t}, y.routers = b.routers →
      Paces b (y.apply (.changePhase r t)) := by
    intro y r t hy
    have h := y.paces_changePhase r t
    unfold Paces at h ⊢
    rwa [hy] at h
  cases h with
  | rests => exact Paces.refl b
  | @begins server router _ _ hrouter hphase =>
    have hchange := b.paces_changePhase server.router .begin
    dsimp only [apply] at hchange
    rw [changePhase_eq (t := .begin) hrouter hphase] at hchange
    exact hchange
  | denied => exact hpaces rfl
  | attaches => exact .of_eq rfl
  | fails => exact .of_eq rfl
  | starts => exact hpaces rfl
  | @abandons server x _ _ hback =>
    have hchange := hpaces (r := server.router) (t := .rollback)
      (rfl : ({ b with engine := b.engine.detach }.setStage s .idle).routers = b.routers)
    dsimp only [apply] at hchange
    rw [hback] at hchange
    exact hchange
  | strands => exact .of_eq rfl
  | stops => exact .of_eq rfl
  | detaches => exact .of_eq rfl

/-- What outlasts everything that happens to a bridge: what its routers are once they are started,
and what its servers are for. -/
structure Outlasts (b b' : Bridge) : Prop where
  routers : Evolves (fun x y => x.router.Settles y.router) (·.router.Sound) b.routers b'.routers
  servers : Evolves Server.Keeps (fun _ => True) b.servers b'.servers

namespace Outlasts

theorem refl (b : Bridge) : Outlasts b b :=
  ⟨.refl (fun x => .refl x.router) _, .refl (fun _ => ⟨rfl, rfl, rfl⟩) _⟩

theorem trans (h : Outlasts b b') (h' : Outlasts b' b'') : Outlasts b b'' := by
  refine ⟨h.routers.trans (fun h h' => h.trans h') (fun hsound h => h.1 hsound) h'.routers, ?_⟩
  refine h.servers.trans ?_ (fun _ _ => trivial) h'.servers
  intro x y z hxy hyz
  exact ⟨hyz.1.trans hxy.1, hyz.2.1.trans hxy.2.1, hyz.2.2.trans hxy.2.2⟩

theorem of_paces (hrouters : Paces b b')
    (hservers : Evolves Server.Keeps (fun _ => True) b.servers b'.servers) : Outlasts b b' :=
  ⟨hrouters.mono Router.Steps.settles Router.IsFresh.sound, hservers⟩

theorem of_routine (h : Routine b b') : Outlasts b b' := by
  refine .of_paces h.paces (h.servers.mono ?_ fun _ => trivial)
  intro x y hlasts
  rw [hlasts]
  exact ⟨rfl, rfl, rfl⟩

end Outlasts

theorem keeps_setStage (b : Bridge) (s : ServerId) (stage : Stage) :
    Evolves Server.Keeps (fun _ => True) b.servers (b.setStage s stage).servers :=
  .modify (fun _ => ⟨rfl, rfl, rfl⟩) fun _ _ => ⟨rfl, rfl, rfl⟩

theorem Turn.outlasts {x : Bridge} (h : Turn s b x) : Outlasts b x := by
  refine .of_paces h.paces ?_
  cases h with
  | rests => exact (Outlasts.refl b).servers
  | begins => exact b.keeps_setStage s _
  | denied =>
    rw [servers_apply_changePhase]
    exact b.keeps_setStage s _
  | attaches => exact b.keeps_setStage s _
  | fails => exact b.keeps_setStage s _
  | starts =>
    rw [servers_apply_changePhase]
    exact b.keeps_setStage s _
  | @abandons server x _ _ hback =>
    show Evolves _ _ b.servers x.servers
    rw [(quiet_changePhase hback).servers]
    exact b.keeps_setStage s _
  | strands => exact b.keeps_setStage s _
  | stops => exact b.keeps_setStage s _
  | detaches => exact b.keeps_setStage s _

theorem Spell.outlasts (h : Spell s b b') : Outlasts b b' := by
  induction h with
  | refl => exact .refl _
  | turn hturn _ ih => exact hturn.outlasts.trans ih
  | routine hroutine _ ih => exact (Outlasts.of_routine hroutine).trans ih

theorem outlasts_apply (ho : b.Orderly) (m : Move) : Outlasts b (b.apply m) := by
  rcases apply_cases ho m with ⟨s, _, hspell⟩ | ⟨_, hroutine⟩ | ⟨r, t, rfl⟩
  · exact hspell.outlasts
  · exact .of_routine hroutine
  · refine .of_paces (b.paces_changePhase r t) ?_
    rw [servers_apply_changePhase]
    exact (Outlasts.refl b).servers

theorem outlasts_run (ho : b.Orderly) (h : List Move) : Outlasts b (b.run h) := by
  induction h generalizing b with
  | nil => exact .refl b
  | cons m rest ih => exact (outlasts_apply ho m).trans (ih ((leads_apply ho m).orderly ho))

theorem orderly_run (profile : Profile) (h : List Move) : ((Bridge.new profile).run h).Orderly :=
  (leads_run (orderly_new profile) h).orderly (orderly_new profile)

theorem sound_run (profile : Profile) (h : List Move) {r : RouterId} {mounted : Mounted}
    (hmounted : ((Bridge.new profile).run h).routers[r]? = some mounted) :
    mounted.router.Sound := by
  rcases (outlasts_run (orderly_new profile) h).routers.new hmounted with ⟨_, hnone, _⟩ | hsound
  · cases hnone
  · exact hsound

/-! ### One step at a time -/

theorem routers_stepStop (b : Bridge) (s : ServerId) : (b.stepStop s).routers = b.routers := by
  unfold stepStop
  split
  · rfl
  · split <;> rfl

theorem routers_freeIfUnowned (b : Bridge) (r : RouterId) :
    (b.freeIfUnowned r).routers = b.routers := by
  unfold freeIfUnowned
  split
  · split <;> rfl
  · rfl

theorem routers_dropServer (b : Bridge) (s : ServerId) : (b.dropServer s).routers = b.routers := by
  have hstop : (b.stop s).routers = b.routers :=
    ((b.stepStop s).routers_stepStop s).trans (b.routers_stepStop s)
  unfold dropServer
  split
  · rfl
  · split
    · rfl
    · exact (routers_freeIfUnowned _ _).trans hstop

/-- A whole start is nothing but its steps. -/
theorem start_eq_run (b : Bridge) (s : ServerId) :
    ∃ n, (b.start s).1 = b.run (.beginStart s :: List.replicate n (.stepStart s)) := by
  have hfinish : ∀ (steps : Nat) (b : Bridge),
      ∃ n, (b.finishStart s steps).1 = b.run (List.replicate n (.stepStart s)) := by
    intro steps
    induction steps with
    | zero => exact fun b => ⟨0, rfl⟩
    | succ steps ih =>
      intro b
      unfold finishStart
      split
      · next x outcome hx => exact ⟨1, (congrArg Progress.bridge hx).symm⟩
      · next x hx =>
        obtain ⟨n, hn⟩ := ih x
        refine ⟨n + 1, hn.trans ?_⟩
        show x.run _ = (b.stepStart s).bridge.run (List.replicate n _)
        rw [hx]
  unfold start
  split
  · next x outcome hx => exact ⟨0, (congrArg Progress.bridge hx).symm⟩
  · next x hx =>
    obtain ⟨n, hn⟩ := hfinish 3 x
    refine ⟨n, hn.trans ?_⟩
    show x.run _ = (b.beginStart s).bridge.run (List.replicate n _)
    rw [hx]

theorem paces_apply (ho : b.Orderly) {m : Move} (hm : ∀ s, m ≠ .start s) : Paces b (b.apply m) := by
  cases hroutine : m.isRoutine with
  | true => exact (routine_apply ho hroutine).paces
  | false =>
    cases m with
    | changePhase r t => exact b.paces_changePhase r t
    | beginStart s => exact (b.turn_beginStart s).paces
    | stepStart s =>
      obtain ⟨x, hturn, htends⟩ := b.turn_stepStart s
      exact hturn.paces.append htends.routers
    | stepStop s => exact .of_eq (b.routers_stepStop s)
    | start s => exact absurd rfl (hm s)
    | stop s => exact .of_eq (((b.stepStop s).routers_stepStop s).trans (b.routers_stepStop s))
    | dropServer s => exact .of_eq (b.routers_dropServer s)
    | _ => exact absurd hroutine.symm Bool.false_ne_true

/-! ### What is refused -/

section Refusals
variable {r : RouterId} {router : Router} (hrouter : b.router? r = some router)
include hrouter

theorem addStage_refused (hphase : router.phase ≠ .building) (stage : Middleware) :
    b.addStage r stage = .error (.notBuilding .stage router.phase) := by
  unfold addStage
  rw [hrouter]
  dsimp only
  rw [Router.addStage_of_phase hphase]
  rfl

theorem addRoute_refused (hphase : router.phase ≠ .building) (path : String) (route : Route) :
    b.addRoute r path route = (b, .error (.notBuilding .route router.phase)) := by
  have hself := setRouter_self hrouter
  unfold addRoute
  rw [hrouter]
  dsimp only
  unfold Router.addRoute
  rw [Router.nextRoute_of_phase hphase]
  exact congrArg (·, _) hself

theorem addGroup_refused (hphase : router.phase ≠ .building) (base : String)
    (stages : List Middleware) (items : List Declaration) :
    b.addGroup r base stages items = (b, .error (.notBuilding .group router.phase)) := by
  have hself := setRouter_self hrouter
  unfold addGroup
  rw [hrouter]
  dsimp only
  unfold Router.addGroup Router.allow
  rw [if_neg hphase]
  exact congrArg (·, _) hself

theorem changePhase_refused {t : Transition} (hphase : router.phase ≠ t.source) :
    b.changePhase r t = .error (.wrongPhase t router.phase) := by
  rcases b.changePhase_cases r t with ⟨misuse, h, hwhy⟩ | ⟨router', hrouter', hphase', _⟩
  · rw [h, (hwhy router hrouter).2]
  · cases hrouter.symm.trans hrouter'
    exact absurd hphase' hphase

end Refusals

theorem start_refused {server : Server} {router : Router} (hserver : b.server? s = some server)
    (hbusy : server.isBusy = false) (hrouter : b.router? server.router = some router)
    (hphase : router.phase ≠ .building) :
    b.start s = (b, .error (.misuse (.wrongPhase .begin router.phase))) := by
  have hrefused := changePhase_refused (t := .begin) hrouter hphase
  unfold start beginStart
  rw [hserver]
  dsimp only
  rw [hbusy, hrefused]
  rfl

end Bridge

/-- Below a group no route is added while the router is not being built, however deep it lies. -/
theorem Group.declareAll_refused {E : Type} [RouteHost E] (g : Group) {r : Router} (e : E)
    (hphase : r.phase ≠ .building) (items : List Declaration) :
    (g.declareAll r e items).router = r ∧ (g.declareAll r e items).engine = e ∧
      (g.listedAll items ≠ [] →
        (g.declareAll r e items).result = .error (.notBuilding .route r.phase)) := by
  obtain ⟨hrouter, hengine, hmisuse⟩ := g.follows_declareAll r e items
  obtain ⟨hrouter', hengine', _⟩ := Router.addAll_of_phase hphase e (g.listedAll items)
  refine ⟨hrouter.trans hrouter', hengine.trans hengine', ?_⟩
  intro hitems
  obtain ⟨x, rest, hlist⟩ := List.exists_cons_of_ne_nil hitems
  have hended : (r.addAll e (g.listedAll items)).misuse = some (.notBuilding .route r.phase) := by
    rw [hlist, Router.addAll]
    unfold Router.addRoute
    rw [Router.nextRoute_of_phase hphase]
  rw [hended] at hmisuse
  cases hresult : (g.declareAll r e items).result with
  | ok declared =>
    rw [hresult] at hmisuse
    cases hmisuse
  | error misuse =>
    rw [hresult] at hmisuse
    exact congrArg Except.error (Option.some.inj hmisuse).symm

namespace Bridge

/-- The life of every router, in every history. It is sealed if and only if it is started; its
phase goes along by one change at a time, and a start is made of single steps. What is asked of
it in the wrong phase is refused and leaves the whole bridge as it was, a route below a group
included. Once it is started it is the same for good, and so is what its servers read requests
with. -/
theorem router_is_safe (profile : Profile) (h : List Move) :
    let b := (Bridge.new profile).run h
    (∀ (r : RouterId) (mounted : Mounted), b.routers[r]? = some mounted →
      (mounted.router.registry.isSealed = true ↔ mounted.router.phase = .started)) ∧
    ((∀ m : Move, (∀ s, m ≠ .start s) →
        (∀ (r : RouterId) (mounted : Mounted), b.routers[r]? = some mounted →
          ∃ mounted', (b.apply m).routers[r]? = some mounted' ∧
            (mounted'.router.phase = mounted.router.phase ∨
              mounted.router.phase.Leads mounted'.router.phase)) ∧
        ∀ (r : RouterId) (mounted' : Mounted), (b.apply m).routers[r]? = some mounted' →
          b.routers[r]? = none → mounted'.router.phase = .building) ∧
      ∀ s, ∃ n, b.apply (.start s) = b.run (.beginStart s :: List.replicate n (.stepStart s))) ∧
    (∀ (r : RouterId) (router : Router), b.router? r = some router →
      (router.phase ≠ .building →
        (∀ stage, b.addStage r stage = .error (.notBuilding .stage router.phase)) ∧
        (∀ path route, b.addRoute r path route = (b, .error (.notBuilding .route router.phase))) ∧
        (∀ base stages items,
          b.addGroup r base stages items = (b, .error (.notBuilding .group router.phase))) ∧
        (∀ (g : Group) (items : List Declaration),
          (g.declareAll router b.engine items).router = router ∧
          (g.declareAll router b.engine items).engine = b.engine ∧
          (g.listedAll items ≠ [] → (g.declareAll router b.engine items).result =
            .error (.notBuilding .route router.phase))) ∧
        ∀ (s : ServerId) (server : Server), b.server? s = some server → server.router = r →
          server.isBusy = false →
          b.start s = (b, .error (.misuse (.wrongPhase .begin router.phase)))) ∧
      ∀ t : Transition, router.phase ≠ t.source →
        b.changePhase r t = .error (.wrongPhase t router.phase)) ∧
    ∀ (r : RouterId) (mounted : Mounted), b.routers[r]? = some mounted →
      mounted.router.phase = .started → ∀ later : List Move,
        (∃ mounted', (b.run later).routers[r]? = some mounted' ∧
          mounted'.router = mounted.router) ∧
        ∀ (s : ServerId) (server : Server), b.servers[s]? = some server → server.router = r →
          (b.run later).dispatcher? s = b.dispatcher? s := by
  intro b
  have ho : b.Orderly := orderly_run profile h
  refine ⟨?_, ⟨?_, b.start_eq_run⟩, ?_, ?_⟩
  · intro r mounted hmounted
    exact sound_run profile h hmounted
  · intro m hm
    have hpaces := paces_apply ho hm
    refine ⟨?_, ?_⟩
    · intro r mounted hmounted
      obtain ⟨mounted', hmounted', hsteps⟩ := hpaces.old hmounted
      exact ⟨mounted', hmounted', hsteps.phase⟩
    · intro r mounted' hmounted' hnone
      rcases hpaces.new hmounted' with ⟨_, hthere, _⟩ | hfresh
      · cases hnone.symm.trans hthere
      · exact hfresh.1
  · intro r router hrouter
    refine ⟨?_, fun t => changePhase_refused hrouter⟩
    intro hphase
    refine ⟨addStage_refused hrouter hphase, addRoute_refused hrouter hphase,
      addGroup_refused hrouter hphase, ?_, ?_⟩
    · intro g items
      exact g.declareAll_refused b.engine hphase items
    · rintro s server hserver rfl hbusy
      exact start_refused hserver hbusy hrouter hphase
  · intro r mounted hmounted hstarted later
    have hlasts := outlasts_run ho later
    obtain ⟨mounted', hmounted', hsettles⟩ := hlasts.routers.old hmounted
    refine ⟨⟨mounted', hmounted', hsettles.2 hstarted⟩, ?_⟩
    rintro s server hserver rfl
    obtain ⟨server', hserver', hport, hrouter, hlimits⟩ := hlasts.servers.old hserver
    unfold dispatcher?
    rw [hserver, hserver']
    dsimp only [Option.bind_eq_bind, Option.bind_some]
    rw [hrouter, hmounted, hmounted', hlimits]
    dsimp only [Option.bind_eq_bind, Option.bind_some]
    rw [hsettles.2 hstarted]

/-- A router with one route, whose server starts. -/
def opening : List Move :=
  [.addRouter, .addRoute 0 "first" ⟨[], fun request => .done (.ok ⟨200, request.body⟩)⟩,
    .addServer 0 8080 {}, .start 0]

theorem started_router_is_closed :
    let b := (Bridge.new .memory).run opening
    ∃ router, b.router? 0 = some router ∧ router.phase = .started ∧
      (∀ path route, b.addRoute 0 path route = (b, .error (.notBuilding .route .started))) ∧
      b.changePhase 0 .begin = .error (.wrongPhase .begin .started) ∧
      (b.run [.stop 0, .start 0]).dispatcher? 0 = b.dispatcher? 0 := by
  intro b
  have hphase : (b.router? 0).map (·.phase) = some .started := by decide +kernel
  obtain ⟨router, hrouter, hstarted⟩ := Option.map_eq_some_iff.mp hphase
  obtain ⟨mounted, hmounted, hsame⟩ := mounted_of_router? hrouter
  obtain ⟨server, hserver⟩ : ∃ server, b.servers[0]? = some server ∧ server.router = 0 :=
    Option.map_eq_some_iff.mp (by decide +kernel : b.servers[0]?.map (·.router) = some 0)
  obtain ⟨-, -, hrefused, hlasts⟩ := router_is_safe .memory opening
  have hbuilding : router.phase ≠ .building := by rw [hstarted]; decide
  have hbegin : router.phase ≠ Transition.begin.source := by rw [hstarted]; decide
  obtain ⟨hadded, hchanged⟩ := hrefused 0 router hrouter
  have hroute := (hadded hbuilding).2.1
  have hbegun := hchanged .begin hbegin
  rw [hstarted] at hroute hbegun
  refine ⟨router, hrouter, hstarted, hroute, hbegun, ?_⟩
  exact (hlasts 0 mounted hmounted (by rw [hsame, hstarted]) _).2 0 server hserver.1 hserver.2

end Bridge
end RequestBridge
