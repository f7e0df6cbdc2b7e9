import RequestBridge.Proofs.Bridge.Decision
import RequestBridge.Proofs.Bridge.Owners

/-! The callback of an engine.

An engine hands a request over in two steps: it reads who is attached, and then the request goes to
whom it has read. In between the server may have been detached, stopped or given up. The request is
dispatched all the same, with the routes that the router of the server has by then; and where no one
was attached the request is refused on the spot (`callback_adds_nothing`). -/
namespace RequestBridge.Bridge
open Occurrence
variable {b b' : Bridge} {s : ServerId}

/-- A server that was attached can be handed requests for good. -/
theorem dispatcher?_of_attached (profile : Profile) (h later : List Move)
    (hattached : ((Bridge.new profile).run h).engine.attached = some s) :
    ∃ server mounted, ((Bridge.new profile).run h).servers[s]? = some server ∧
      (((Bridge.new profile).run h).run later).routers[server.router]? = some mounted ∧
      (((Bridge.new profile).run h).run later).dispatcher? s =
        some ⟨mounted.router.registry, server.limits⟩ := by
  have hlasts := outlasts_run (orderly_run profile h) later
  obtain ⟨server, hserver, _⟩ := (seated_run profile h s).mp hattached
  obtain ⟨server', hserver', _, hrouter, hlimits⟩ := hlasts.servers.old hserver
  obtain ⟨old, hold⟩ := mounted_of_server (kept_run profile h) hserver
  obtain ⟨mounted, hmounted, _⟩ := hlasts.routers.old hold
  refine ⟨server, mounted, hserver, hmounted, ?_⟩
  unfold dispatcher?
  rw [hserver']
  dsimp only [Option.bind_eq_bind, Option.bind_some]
  rw [hrouter, hlimits, hmounted]
  rfl

/-- A flag that is freed stays so. -/
theorem Unfolds.flagFreedCount_le {os : List Occurrence} (h : Unfolds b os b') (ho : b.Orderly)
    (f : Address) : b.engine.flagFreedCount f ≤ b'.engine.flagFreedCount f := by
  induction h with
  | refl => exact Nat.le_refl _
  | step hstep _ ih =>
    refine Nat.le_trans ?_ (ih (hstep.orderly ho))
    obtain ⟨_, calls, _, _, hdealings⟩ := hstep.dealt ho
    rw [Engine.flagFreedCount_eq, Engine.flagFreedCount_eq, hdealings, List.count_append]
    exact Nat.le_add_left _ _

/-- The engine hands a request over to whom it has read as attached, whatever has happened since. If
there was someone, that is a dispatch by their dispatcher and nothing else; if there was no one, the
request is refused before the callback returns, and its flag is freed then and never again. In no
case is a request left over: it is with a task, or it has ended once. -/
theorem callback_adds_nothing (profile : Profile) (h later : List Move)
    (withContext withFlag cancelled : Bool) (route : UInt16) (frame : Option Bytes) :
    let read := (Bridge.new profile).run h
    let before := read.run later
    let (engine, context, flag) := before.engine.equip withContext withFlag cancelled
    let b := { before with engine }
    let call : Inbound := ⟨route, frame, context, flag⟩
    let handed := before.handOver read.engine.attached withContext withFlag cancelled route frame
    handed.2 = call ∧
    (∀ s, read.engine.attached = some s → ∃ server mounted, read.servers[s]? = some server ∧
      before.routers[server.router]? = some mounted ∧
      handed.1 = b.dispatch ⟨mounted.router.registry, server.limits⟩ call) ∧
    (read.engine.attached = none →
      b.Refuses call "no dispatcher attached" handed.1 ∧
      (∀ c, context = some c → handed.1.engine.terminalCount c = 1) ∧
      ∀ f, flag = some f → ∀ more, (handed.1.run more).engine.flagFreedCount f = 1) ∧
    ∀ more c, context = some c →
      (handed.1.run more).engine.terminalCount c ≤ 1 ∧
      (c ∉ (handed.1.run more).inFlight → (handed.1.run more).engine.terminalCount c = 1) := by
  intro read before
  obtain ⟨os, hos, -⟩ := (leads_run (orderly_new profile) h).trans
    (leads_run (orderly_run profile h) later)
  have hleads :=
    before.leads_handOver read.engine.attached withContext withFlag cancelled route frame
  obtain ⟨⟨engine, context, flag⟩, hequip⟩ :
      ∃ equipped, before.engine.equip withContext withFlag cancelled = equipped := ⟨_, rfl⟩
  have hhanded : before.handOver read.engine.attached withContext withFlag cancelled route frame =
      (receive { before with engine } read.engine.attached ⟨route, frame, context, flag⟩,
        ⟨route, frame, context, flag⟩) := by
    unfold handOver
    rw [hequip]
  rw [hhanded] at hleads
  rw [hequip]
  dsimp only
  rw [hhanded]
  dsimp only at hleads ⊢
  obtain ⟨b', hreceive⟩ : ∃ b',
      receive { before with engine } read.engine.attached ⟨route, frame, context, flag⟩ = b' :=
    ⟨_, rfl⟩
  rw [hreceive] at hleads ⊢
  obtain ⟨l, a, -⟩ := accounted_of_unfolds hos
  obtain ⟨os', hos', harrives⟩ := hleads
  have hequipped := Engine.equipped_of_equip hequip
  -- whatever comes later, the books are those of one history
  have hwhole : ∀ more, ∃ os'', Unfolds b' os'' (b'.run more) ∧
      Unfolds (Bridge.new profile) (os ++ (os' ++ os'')) (b'.run more) := by
    intro more
    obtain ⟨os'', hos'', -⟩ := leads_run (l.unfolds hos').orderly more
    exact ⟨os'', hos'', hos.trans (hos'.trans hos'')⟩
  have hended : ∀ more c, context = some c →
      (b'.run more).engine.terminalCount c ≤ 1 ∧
      (c ∉ (b'.run more).inFlight → (b'.run more).engine.terminalCount c = 1) := by
    intro more c hc
    obtain ⟨os'', -, hos''⟩ := hwhole more
    have hends := ((ledger_new profile).unfolds hos'').endsOnce
    refine ⟨hends.atMostOnce c, hends.ended c ?_⟩
    rw [List.nil_append, newContexts_append, newContexts_append, newContexts_of_arrivals harrives]
    exact List.mem_append_right _ (List.mem_append_left _ (Option.mem_toList.mpr hc))
  refine ⟨rfl, ?_, ?_, hended⟩
  · intro s hattached
    obtain ⟨server, mounted, hserver, hmounted, hdispatcher⟩ :=
      dispatcher?_of_attached profile h later hattached
    refine ⟨server, mounted, hserver, hmounted, ?_⟩
    have hreads : { before with engine }.dispatcher? s =
        some ⟨mounted.router.registry, server.limits⟩ := hdispatcher
    rw [← hreceive, hattached, receive]
    dsimp only [Option.bind_some]
    rw [hreads]
  · intro hnone
    have hrefuses : { before with engine }.Refuses ⟨route, frame, context, flag⟩
        "no dispatcher attached" b' := by
      have hflag : ∀ f, flag = some f → f ∉ { before with engine }.flags :=
        flag_not_held (b := before) hos hequip
      rw [← hreceive, hnone]
      exact refuses_reject hflag [] .noDispatcher
    refine ⟨hrefuses, ?_, ?_⟩
    · intro c hc
      refine (hended [] c hc).2 fun hflight => ?_
      have hbefore : c ∈ before.inFlight := by
        rw [inFlight, ← show _ = before.tasks from hrefuses.tasks]
        exact hflight
      have hold := (l.endsOnce.pending c hbefore).1
      exact Nat.not_lt_of_le (hequipped.context c hc).1 (l.contexts.within c hold).2
    · intro f hf more
      have hnever : engine.flagFreedCount f = 0 := by
        rw [Engine.flagFreedCount, hequipped.journal]
        refine a.freesOnce.foreign f fun hold => ?_
        exact Nat.not_lt_of_le (hequipped.flag f hf).1 (l.flags.within f hold).2
      have hnow := hrefuses.freed f
      rw [hnever, Nat.zero_add, if_pos hf] at hnow
      obtain ⟨os'', hos'', hhistory⟩ := hwhole more
      obtain ⟨-, hlater, -⟩ := accounted_of_unfolds hhistory
      refine Nat.le_antisymm (hlater.freesOnce.atMostOnce f) ?_
      rw [← hnow]
      exact hos''.flagFreedCount_le (l.unfolds hos').orderly f

/-- The server is given up, and its router with it. -/
def closing : List Move := [.stop 0, .dropServer 0, .dropRouter 0]

/-- A request that was read for a server is dispatched by its dispatcher, even if no one has the
server any more and its table is freed. -/
theorem request_outlives_its_server :
    let before := ((Bridge.new .native).run opening).run closing
    let frame := some (Frame.encodeRequest ⟨.get, "/", []⟩)
    let handed := before.handOver (some 0) true true false 0 frame
    ((Bridge.new .native).run opening).engine.attached = some 0 ∧ before.engine.attached = none ∧
      before.engine.tables = [] ∧
      (∃ mounted, before.routers[0]? = some mounted ∧ handed.1 =
        { before with engine := (before.engine.equip true true false).1 }.dispatch
          ⟨mounted.router.registry, {}⟩ handed.2) ∧
      handed.1.tasks.map (·.context) = [some 0x1010] := by
  intro before frame handed
  have hattached : ((Bridge.new .native).run opening).engine.attached = some 0 := by decide +kernel
  have hown : ((Bridge.new .native).run opening).servers[0]? =
      some { port := 8080, router := 0, stage := .running 0x1008 } := by decide +kernel
  have hcallback := callback_adds_nothing .native opening closing true true false 0 frame
  dsimp only at hcallback
  rw [hattached] at hcallback
  refine ⟨hattached, by decide +kernel, by decide +kernel, ?_, by decide +kernel⟩
  obtain ⟨hcall, hserved, -⟩ := hcallback
  obtain ⟨server, mounted, hserver, hmounted, hdispatched⟩ := hserved 0 rfl
  cases hserver.symm.trans hown
  rw [← hcall] at hdispatched
  exact ⟨mounted, hmounted, hdispatched⟩

end RequestBridge.Bridge
