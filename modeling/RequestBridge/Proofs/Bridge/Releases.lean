import RequestBridge.App
import RequestBridge.Proofs.Bridge.Owners

/-! Tables and servers are given back once, and in order.

Routers are shared, and servers stop in more than one way: they are stopped, given up, or go down
with an application. Whatever is done with applications is made of moves (`errands_eq_run`), so the
order in which the estate of a bridge is kept says it all: no table is freed twice, none is freed
while a server may still serve it, and no server is stopped twice (`handles_are_given_back_once`). -/
namespace RequestBridge

/-- What may be done where there are applications. -/
inductive Errand where
  | move (m : Move)
  | assemble (port : UInt16) (limits : Frame.Limits) (ownsWorkers : Bool)
  | ofConfig (c : Config)
  | dropApp (app : App)

/-- The moves that the end of an application is made of. -/
def App.dropping (app : App) : List Move :=
  .stop app.server :: ((if app.ownsWorkers then [.halt] else []) ++
    [.dropRouter app.router, .dropServer app.server])

theorem App.drop_eq_run (app : App) (b : Bridge) : app.drop b = b.run app.dropping := by
  unfold drop dropping
  cases app.ownsWorkers <;> rfl

theorem App.assemble_eq_run (b : Bridge) (port : UInt16) (limits : Frame.Limits)
    (ownsWorkers : Bool) : ∃ ms, (assemble b port limits ownsWorkers).1 = b.run ms := by
  unfold assemble
  dsimp only
  cases hadd : b.addRouter with
  | mk x table =>
    have hx : x = b.apply .addRouter := (congrArg Prod.fst hadd).symm
    cases table with
    | none => exact ⟨[.addRouter], hx⟩
    | some t =>
      refine ⟨[.addRouter, .addServer b.routers.length port limits], ?_⟩
      show x.addServer b.routers.length port limits = _
      rw [hx]
      rfl

namespace Bridge
variable {b b' : Bridge} {s : ServerId}

/-- The bridge after an errand. -/
def carryOut (b : Bridge) : Errand → Bridge
  | .move m => b.apply m
  | .assemble port limits ownsWorkers => (App.assemble b port limits ownsWorkers).1
  | .ofConfig c => (App.ofConfig b c).1
  | .dropApp app => app.drop b

def carryOutAll (b : Bridge) : List Errand → Bridge
  | [] => b
  | errand :: rest => (b.carryOut errand).carryOutAll rest

theorem errand_eq_run (b : Bridge) (errand : Errand) : ∃ ms, b.carryOut errand = b.run ms := by
  cases errand with
  | move m => exact ⟨[m], rfl⟩
  | assemble port limits ownsWorkers => exact App.assemble_eq_run b port limits ownsWorkers
  | ofConfig c =>
    dsimp only [carryOut, App.ofConfig]
    split
    · exact ⟨[], rfl⟩
    · split
      · exact ⟨[], rfl⟩
      · exact App.assemble_eq_run b _ _ true
  | dropApp app => exact ⟨app.dropping, app.drop_eq_run b⟩

/-- What is done with applications is made of moves. -/
theorem errands_eq_run (b : Bridge) (errands : List Errand) :
    ∃ ms, b.carryOutAll errands = b.run ms := by
  induction errands generalizing b with
  | nil => exact ⟨[], rfl⟩
  | cons errand rest ih =>
    obtain ⟨ms, hms⟩ := b.errand_eq_run errand
    obtain ⟨more, hmore⟩ := ih (b.carryOut errand)
    refine ⟨ms ++ more, ?_⟩
    rw [run_append, ← hms]
    exact hmore

/-! ### What can be seen of the estate -/

theorem isSome_lease : (b.lease s).isSome = true ↔
    ∃ server, b.servers[s]? = some server ∧ server.isRunning = true := by
  unfold lease Server.isRunning
  cases b.servers[s]? <;> simp

/-- An engine serves if and only if a server runs. -/
theorem Held.isServing (h : b.Held) : b.engine.isServing = true ↔
    ∃ (s : ServerId) (server : Server), b.servers[s]? = some server ∧ server.isRunning = true := by
  have hsome : b.engine.isServing = (b.engine.attached.bind b.lease).isSome := by
    unfold Engine.isServing
    rw [h.serving]
    cases b.engine.attached.bind b.lease <;> rfl
  rw [hsome]
  constructor
  · intro hserves
    obtain ⟨place, hplace⟩ := Option.isSome_iff_exists.mp hserves
    obtain ⟨s, _, hlease⟩ := Option.bind_eq_some_iff.mp hplace
    exact ⟨s, isSome_lease.mp (Option.isSome_iff_exists.mpr ⟨place, hlease⟩)⟩
  · rintro ⟨s, server, hserver, hruns⟩
    rw [h.seated.attached_of_isRunning hserver hruns]
    exact isSome_lease.mpr ⟨server, hserver, hruns⟩

/-- There are as many tables as there are routers that someone owns. -/
theorem length_tables (h : b.estate.Kept) :
    b.engine.tables.length = ((List.range b.routers.length).filter b.isOwned).length := by
  have hlength : b.estate.titles.length = b.routers.length := List.length_map _
  have htitle : ∀ {r}, r < b.routers.length →
      b.estate.titles[r]? = some (b.estate.titles.getD r 0) := by
    intro r hr
    rw [← hlength] at hr
    rw [List.getD_eq_getElem?_getD, List.getElem?_eq_getElem hr]
    rfl
  have hroom : ∀ {r}, r ∈ (List.range b.routers.length).filter b.isOwned → r < b.routers.length :=
    fun hr => List.mem_range.mp (List.mem_filter.mp hr).1
  have hperm : b.engine.tables.Perm
      (((List.range b.routers.length).filter b.isOwned).map fun r => b.estate.titles.getD r 0) := by
    refine (List.perm_ext_iff_of_nodup h.single ?_).mpr fun a => ?_
    · refine List.Nodup.map_on ?_ (List.nodup_range.filter _)
      intro r hr r' hr' hsame
      refine (List.getElem?_inj (hlength.symm ▸ hroom hr) h.distinct).mp ?_
      rw [htitle (hroom hr), htitle (hroom hr'), hsame]
    · rw [List.mem_map]
      refine (h.tables a).trans (exists_congr fun r => ?_)
      rw [owned_estate, List.mem_filter, List.mem_range]
      constructor
      · rintro ⟨ha, howned⟩
        have hr := (List.getElem?_eq_some_iff.mp ha).1
        rw [hlength] at hr
        exact ⟨⟨hr, howned⟩, Option.some.inj ((htitle hr).symm.trans ha)⟩
      · rintro ⟨⟨hr, howned⟩, rfl⟩
        exact ⟨htitle hr, howned⟩
  rw [hperm.length_eq, List.length_map]

/-- A server that runs and is not starting is stopped by the first step of a stop. -/
theorem mem_custody_stepStop {server : Server} (hserver : b.server? s = some server)
    (hstarting : server.isStarting = false) {a : Address} (ha : server.stage.handle? = some a) :
    .serverStopped a ∈ (b.stepStop s).engine.custody := by
  have hstage : server.stage = .running a := by
    unfold Server.isStarting at hstarting
    cases hstage : server.stage <;> rw [hstage] at hstarting ha <;> cases ha <;>
      first | rfl | cases hstarting
  unfold stepStop
  rw [hserver]
  dsimp only
  rw [hstage]
  exact (Engine.mem_custody rfl).mpr List.mem_cons_self

/-- Whatever is done with routers, servers and applications, and in whatever order they are given
up: all calls about tables and servers come in time. A table is freed once, when its router has no
owner any more; a server is stopped once, when it does not run any more, and it does not once its
stop, or the end of it or of its application, has come back. The engine has as many tables as there
are routers with owners, and it serves while a server runs. -/
theorem handles_are_given_back_once (profile : Profile) (errands : List Errand) :
    let b := (Bridge.new profile).carryOutAll errands
    Call.InOrder b.engine.journal ∧
    (∀ t, .tableCreated t ∈ b.engine.journal →
      ∃ (r : RouterId) (mounted : Mounted), b.routers[r]? = some mounted ∧
        mounted.router.table = t) ∧
    (∀ (r : RouterId) (mounted : Mounted), b.routers[r]? = some mounted →
      .tableCreated mounted.router.table ∈ b.engine.journal ∧
      b.engine.journal.count (.tableFreed mounted.router.table) = if b.isOwned r then 0 else 1) ∧
    (∀ a port table, .serverStarted a port table ∈ b.engine.journal →
      ∃ (s : ServerId) (server : Server) (mounted : Mounted), b.servers[s]? = some server ∧
        b.routers[server.router]? = some mounted ∧ table = some mounted.router.table ∧
        b.engine.journal.count (.serverStopped a) =
          if server.stage.handle? = some a then 0 else 1) ∧
    (∀ (s : ServerId) (server : Server) (a : Address), b.server? s = some server →
      server.isStarting = false → server.stage.handle? = some a →
      (b.stop s).engine.journal.count (.serverStopped a) = 1 ∧
      (b.dropServer s).engine.journal.count (.serverStopped a) = 1 ∧
      ∀ app : App, app.server = s → (app.drop b).engine.journal.count (.serverStopped a) = 1) ∧
    b.engine.tables.length = ((List.range b.routers.length).filter b.isOwned).length ∧
    (b.engine.isServing = true ↔ ∃ (s : ServerId) (server : Server),
      b.servers[s]? = some server ∧ server.isRunning = true) := by
  intro b
  obtain ⟨h, hb⟩ : ∃ ms, b = (Bridge.new profile).run ms := errands_eq_run _ errands
  have ho : b.Orderly := hb ▸ orderly_run profile h
  have hheld : b.Held := hb ▸ (run_hands (orderly_new profile) (held_new profile) h).1
  have hkept : b.estate.Kept := hb ▸ kept_run profile h
  have hinOrder : ∀ {x : Bridge}, Estate.Steps b.estate x.estate → Call.InOrder x.engine.journal :=
    fun hsteps => Call.inOrder_of_filter (hkept.steps hsteps).order
  have horder := hinOrder (.refl _)
  refine ⟨horder, ?_, ?_, ?_, ?_, length_tables hkept, hheld.isServing⟩
  · intro t hcreated
    obtain ⟨mounted, hmem, hmounted⟩ := List.mem_map.mp
      ((hkept.created t).mp ((Engine.mem_custody rfl).mpr hcreated))
    obtain ⟨r, hr⟩ := List.mem_iff_getElem?.mp hmem
    exact ⟨r, mounted, hr, hmounted⟩
  · intro r mounted hmounted
    have htitle := getElem?_titles hmounted
    refine ⟨(Engine.mem_custody rfl).mp ((hkept.created _).mpr (List.mem_of_getElem? htitle)), ?_⟩
    have hfreed := hkept.freed r _ htitle
    rw [owned_estate] at hfreed
    rw [horder.count_freed]
    by_cases howned : b.isOwned r = true
    · rw [if_pos howned, if_neg fun hmem => hfreed.mp ((Engine.mem_custody rfl).mpr hmem) howned]
    · rw [if_neg howned, if_pos ((Engine.mem_custody rfl).mp (hfreed.mpr howned))]
  · intro a port table hstarted
    obtain ⟨_, s, t, ht, htable, hends⟩ :=
      hkept.started a port table ((Engine.mem_custody rfl).mpr hstarted)
    obtain ⟨server, hserver, rfl⟩ := server_of_tenant ht
    obtain ⟨mounted, hmounted⟩ := mounted_of_server hkept hserver
    refine ⟨s, server, mounted, hserver, hmounted, htable.trans (getElem?_titles hmounted), ?_⟩
    rw [horder.count_stopped]
    by_cases hruns : server.stage.handle? = some a
    · rw [if_pos hruns, if_neg fun hmem =>
        (hkept.running s _ a ht hruns).2 ((Engine.mem_custody rfl).mpr hmem)]
    · rw [if_neg hruns, if_pos ((Engine.mem_custody rfl).mp (hends.resolve_left hruns))]
  · intro s server a hserver hstarting ha
    have hstopped := mem_custody_stepStop hserver hstarting ha
    have honce : ∀ {x : Bridge}, Estate.Steps b.estate x.estate →
        Estate.Steps (b.stepStop s).estate x.estate →
        x.engine.journal.count (.serverStopped a) = 1 := by
      intro x hsteps hlater
      rw [(hinOrder hsteps).count_stopped]
      exact if_pos ((Engine.mem_custody rfl).mp (hlater.mem_custody hstopped))
    have hstop := b.estate_stop s
    have hlast : Estate.Steps (b.stepStop s).estate (b.stop s).estate := estate_stepStop _ s
    refine ⟨honce hstop hlast, ?_, ?_⟩
    · have hdrop := estate_dropStopped hkept hserver hstarting
      exact honce (hstop.trans hdrop) (hlast.trans hdrop)
    · rintro app rfl
      have hrest := estate_run ((leads_apply ho (.stop app.server)).orderly ho)
        ((hands_apply ho (.stop app.server)).held hheld) (hkept.steps hstop) app.dropping.tail
      rw [app.drop_eq_run]
      exact honce (hstop.trans hrest) (hlast.trans hrest)

/-- An application that serves, of whose router someone else has a share. -/
def shared : List Errand :=
  [.assemble 8080 {} false, .move (.shareRouter 0), .move (.start 0)]

/-- The application takes its server with it. The table goes with the one who has the share. -/
theorem shared_table_is_freed_last :
    let app : App := ⟨0, 0, false⟩
    let b := (Bridge.new .memory).carryOutAll shared
    let gone := (Bridge.new .memory).carryOutAll (shared ++ [.dropApp app, .move (.dropRouter 0)])
    b.engine.isServing = true ∧ (app.drop b).engine.journal.count (.serverStopped 32) = 1 ∧
      (app.drop b).engine.tables = [16] ∧ gone.engine.journal.count (.tableFreed 16) = 1 := by
  intro app b gone
  obtain ⟨-, -, -, -, hstopped, -⟩ := handles_are_given_back_once .memory shared
  obtain ⟨-, -, hfreed, -⟩ :=
    handles_are_given_back_once .memory (shared ++ [.dropApp app, .move (.dropRouter 0)])
  have hserver : b.server? 0 = some { port := 8080, router := 0, stage := .running 32 } := by
    decide +kernel
  have htable : gone.routers[0]?.map (·.router.table) = some 16 := by decide +kernel
  obtain ⟨mounted, hmounted, htable⟩ := Option.map_eq_some_iff.mp htable
  have hunowned : gone.isOwned 0 = false := by decide +kernel
  have hcount := (hfreed 0 mounted hmounted).2
  rw [htable, if_neg (Bool.eq_false_iff.mp hunowned)] at hcount
  have hlast := (hstopped 0 _ 32 hserver rfl rfl).2.2 app rfl
  dsimp only [b, gone]
  exact ⟨by decide +kernel, hlast, by decide +kernel, hcount⟩

end Bridge
end RequestBridge
