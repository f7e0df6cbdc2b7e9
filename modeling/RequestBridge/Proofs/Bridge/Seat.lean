import RequestBridge.Proofs.Bridge.Lifecycle

/-! The place at the engine.

An engine has one place for a server, and whoever leaves it is not asked whether the place is
theirs. That no server leaves the place of another one is a matter of the turns of all of them: a
server leaves only at a stage that it comes to by taking the place. So the place is taken and left
by turns, each time by the same server, and at most one server runs
(`place_is_never_taken_away`). -/
namespace RequestBridge

/-- What becomes of the place at the engine. -/
inductive SeatEvent where
  | taken (s : ServerId)
  /-- The place was left, in a move of a server or in another one. -/
  | left (who : Option ServerId)
deriving DecidableEq

/-- Who has the place after an event. A place is taken while it is free, and left by the one who
has it; nothing else may happen to it. -/
def SeatEvent.next? : Option ServerId → SeatEvent → Option (Option ServerId)
  | none, .taken s => some (some s)
  | some s, .left who => if who = some s then some none else none
  | _, _ => none

/-- Each taking of the place is undone by one leaving, of the same server, unless it still has the
place. -/
theorem SeatEvent.count_taken {events : List SeatEvent} {seat seat' : Option ServerId}
    (s : ServerId) (h : events.foldlM next? seat = some seat') :
    events.count (.taken s) + (if seat = some s then 1 else 0) =
      events.count (.left (some s)) + (if seat' = some s then 1 else 0) := by
  induction events generalizing seat with
  | nil =>
    cases h
    rfl
  | cons event rest ih =>
    rw [List.foldlM_cons] at h
    obtain ⟨mid, hmid, hrest⟩ := Option.bind_eq_some_iff.mp h
    have hrest := ih hrest
    rw [List.count_cons, List.count_cons]
    cases event with
    | taken t =>
      cases seat with
      | some u => cases hmid
      | none =>
        cases hmid
        simp only [beq_iff_eq, SeatEvent.taken.injEq, reduceCtorEq, if_false] at hrest ⊢
        simp only [Option.some.injEq] at hrest
        omega
    | left who =>
      cases seat with
      | none => cases hmid
      | some u =>
        unfold next? at hmid
        dsimp only at hmid
        split at hmid
        · next hwho =>
          cases hmid
          subst hwho
          simp only [beq_iff_eq, SeatEvent.left.injEq, Option.some.injEq, reduceCtorEq,
            if_false] at hrest ⊢
          omega
        · cases hmid

/-- What a call does about the place, if it is made in a move of a server. -/
def Call.seatEvent? (actor : Option ServerId) : Call → Option SeatEvent
  | .attached s => some (.taken s)
  | .detached => some (.left actor)
  | _ => none

theorem Call.seatEvent?_of_not_isSeating {call : Call} (h : call.isSeating = false)
    (actor : Option ServerId) : call.seatEvent? actor = none := by
  cases call <;> first | rfl | cases h

/-- The stage after one step of a stop. -/
def Stage.stopped : Stage → Stage
  | .running _ => .detaching
  | .detaching => .idle
  | stage => stage

namespace Bridge
variable {b b' b'' : Bridge} {s : ServerId} {who : Option ServerId}

/-- The calls about tables, routes and servers that a move makes, in order. -/
def business (b : Bridge) (m : Move) : List Call :=
  ((b.apply m).engine.business.take
    ((b.apply m).engine.business.length - b.engine.business.length)).reverse

/-- What a move does about the place at the engine, in order. -/
def seatEvents (b : Bridge) (m : Move) : List SeatEvent :=
  (b.business m).filterMap (Call.seatEvent? m.actor?)

/-- What a history does about the place at the engine, in order. -/
def seatLog (b : Bridge) : List Move → List SeatEvent
  | [] => []
  | m :: rest => b.seatEvents m ++ (b.apply m).seatLog rest

/-- What a server has at the engine while it runs: its handle, with its port. -/
def lease (b : Bridge) (s : ServerId) : Option (Address × UInt16) :=
  b.servers[s]?.bind fun server => server.stage.handle?.map (·, server.port)

/-- The place belongs to the server whose stage says so, and no other server runs at the engine. -/
structure Held (b : Bridge) : Prop where
  seated : b.Seated
  serving : b.engine.servers = (b.engine.attached.bind b.lease).toList

/-- What happens in a move of a server, or in another one, leaves the place in the right hands. -/
structure Hands (who : Option ServerId) (b b' : Bridge) : Prop where
  held : b.Held → b'.Held
  passes : b.Held → ∃ calls, b'.engine.business = calls ++ b.engine.business ∧
    (calls.reverse.filterMap (Call.seatEvent? who)).foldlM SeatEvent.next? b.engine.attached =
      some b'.engine.attached

namespace Hands

theorem trans (h : Hands who b b') (h' : Hands who b' b'') : Hands who b b'' := by
  refine ⟨fun hheld => h'.held (h.held hheld), ?_⟩
  intro hheld
  obtain ⟨calls, hcalls, hpasses⟩ := h.passes hheld
  obtain ⟨calls', hcalls', hpasses'⟩ := h'.passes (h.held hheld)
  refine ⟨calls' ++ calls, ?_, ?_⟩
  · rw [hcalls', hcalls, List.append_assoc]
  · rw [List.reverse_append, List.filterMap_append, List.foldlM_append, hpasses]
    exact hpasses'

/-- What makes no call that takes or leaves the place. -/
theorem of_calls (calls : List Call) (hbusiness : b'.engine.business = calls ++ b.engine.business)
    (hspared : ∀ call ∈ calls, call.isSeating = false)
    (hattached : b'.engine.attached = b.engine.attached) (hheld : b.Held → b'.Held) :
    Hands who b b' := by
  refine ⟨hheld, fun _ => ⟨calls, hbusiness, ?_⟩⟩
  have hnone : calls.reverse.filterMap (Call.seatEvent? who) = [] := by
    refine List.filterMap_eq_nil_iff.mpr ?_
    intro call hcall
    exact Call.seatEvent?_of_not_isSeating (hspared call (List.mem_reverse.mp hcall)) who
  rw [hnone, hattached]
  rfl

/-- What concerns routers only. -/
theorem of_eq (hengine : b'.engine = b.engine) (hservers : b'.servers = b.servers) :
    Hands who b b' := by
  refine .of_calls [] (congrArg Engine.business hengine) (fun _ h => nomatch h)
    (congrArg Engine.attached hengine) ?_
  rintro ⟨hseated, hserving⟩
  refine ⟨?_, ?_⟩
  · intro s
    rw [hengine, hservers]
    exact hseated s
  · rw [hengine, hserving]
    unfold lease
    rw [hservers]

theorem refl (b : Bridge) : Hands who b b := .of_eq rfl rfl

theorem of_routine (h : Routine b b') : Hands who b b' := by
  obtain ⟨calls, hcalls, hspared⟩ := h.engine.business
  have hlease : ∀ s, b'.lease s = b.lease s := by
    intro s
    unfold lease
    cases hserver : b.servers[s]? with
    | some server =>
      obtain ⟨server', hserver', hlasts⟩ := h.servers.old hserver
      rw [hserver', hlasts]
      rfl
    | none =>
      cases hserver' : b'.servers[s]? with
      | none => rfl
      | some server' =>
        rcases h.servers.new hserver' with ⟨_, hthere, _⟩ | hidle
        · cases hserver.symm.trans hthere
        · show server'.stage.handle?.map _ = none
          rw [hidle]
          rfl
  refine .of_calls calls hcalls hspared h.engine.attached ?_
  rintro ⟨hseated, hserving⟩
  refine ⟨?_, ?_⟩
  · intro s
    rw [h.engine.attached, hseated s]
    refine ⟨?_, ?_⟩
    · rintro ⟨server, hserver, hstage⟩
      obtain ⟨server', hserver', hlasts⟩ := h.servers.old hserver
      exact ⟨server', hserver', by rw [hlasts.stage]; exact hstage⟩
    · rintro ⟨server', hserver', hstage⟩
      rcases h.servers.new hserver' with ⟨server, hserver, hlasts⟩ | hidle
      · exact ⟨server, hserver, by rw [← hlasts.stage]; exact hstage⟩
      · rw [hidle] at hstage
        cases hstage
  · rw [h.engine.live, h.engine.attached, hserving]
    exact congrArg (fun f => (b.engine.attached.bind f).toList) (funext fun s => (hlease s).symm)

end Hands

theorem lease_setStage {server : Server} (hserver : b.servers[s]? = some server) (e : Engine)
    (stage : Stage) (i : ServerId) : lease ({ b with engine := e }.setStage s stage) i =
      if s = i then stage.handle?.map (·, server.port) else b.lease i := by
  unfold lease
  rw [getElem?_setStage]
  split
  · next hi => rw [← hi, hserver]; rfl
  · rfl

/-- A server that comes to another stage without a word to the engine. -/
theorem hands_setStage {server : Server} (hserver : b.servers[s]? = some server) {stage : Stage}
    (hseat : stage.isSeated = server.stage.isSeated)
    (hhandle : stage.handle? = server.stage.handle?) : Hands who b (b.setStage s stage) := by
  refine .of_calls [] rfl (fun _ h => nomatch h) rfl ?_
  rintro ⟨hseated, hserving⟩
  refine ⟨(steady_setStage (e := b.engine) hserver hseat rfl).seated hseated, ?_⟩
  refine hserving.trans (congrArg (fun f => (b.engine.attached.bind f).toList) (funext fun i => ?_))
  rw [lease_setStage hserver b.engine]
  split
  · next hi =>
    unfold lease
    rw [← hi, hserver, hhandle]
    rfl
  · rfl

/-- A server at whose stage the place is taken, and which does not run. -/
theorem Held.servers_eq_nil (h : b.Held) {server : Server} (hserver : b.servers[s]? = some server)
    (hseat : server.stage.isSeated = true) (hhandle : server.stage.handle? = none) :
    b.engine.servers = [] := by
  rw [h.serving, (h.seated.attached hserver).mpr hseat]
  show (b.lease s).toList = []
  unfold lease
  rw [hserver]
  show (server.stage.handle?.map _).toList = []
  rw [hhandle]
  rfl

/-- A server that has the place and keeps it. It runs afterwards if it has a handle then. -/
theorem hands_keep {server : Server} (hserver : b.servers[s]? = some server)
    (hseat : server.stage.isSeated = true) {stage : Stage} (hstage : stage.isSeated = true)
    {e : Engine} {call : Call} (hdealing : call.isDealing = false)
    (hseating : call.isSeating = false) (hjournal : e.journal = call :: b.engine.journal)
    (hattached : e.attached = b.engine.attached)
    (hlive : b.Held → e.servers = (stage.handle?.map (·, server.port)).toList) :
    Hands who b ({ b with engine := e }.setStage s stage) := by
  refine .of_calls [call] (Engine.business_of_call hdealing hjournal) ?_ hattached ?_
  · intro other hother
    rw [List.mem_singleton.mp hother]
    exact hseating
  · intro hheld
    have hsteady := steady_setStage hserver (hstage.trans hseat.symm) hattached
    refine ⟨hsteady.seated hheld.seated, ?_⟩
    show e.servers = (e.attached.bind _).toList
    rw [hattached, (hheld.seated.attached hserver).mpr hseat, hlive hheld]
    show _ = (lease _ s).toList
    rw [lease_setStage hserver, if_pos rfl]

/-- A server that has the place, does not run, and leaves. -/
theorem hands_leave {server : Server} (hserver : b.servers[s]? = some server)
    (hseat : server.stage.isSeated = true) (hhandle : server.stage.handle? = none) :
    Hands (some s) b ({ b with engine := b.engine.detach }.setStage s .idle) := by
  refine ⟨?_, ?_⟩
  · intro hheld
    exact ⟨(steady_leave hserver hseat rfl).seated hheld.seated,
      hheld.servers_eq_nil hserver hseat hhandle⟩
  · intro hheld
    refine ⟨[.detached], Engine.business_of_call rfl rfl, ?_⟩
    rw [(hheld.seated.attached hserver).mpr hseat]
    show (if some s = some s then some none else none : Option (Option ServerId)) >>= pure = _
    rw [if_pos rfl]
    rfl

theorem hands_attach {server : Server} (hserver : b.servers[s]? = some server) {e : Engine}
    (hattach : b.engine.attach s = .ok e) :
    Hands who b ({ b with engine := e }.setStage s .launching) := by
  have hsteady : Steady b ({ b with engine := e }.setStage s .launching) :=
    steady_attach hserver hattach rfl
  obtain ⟨hnone, rfl⟩ := Engine.attach_eq_ok hattach
  refine ⟨?_, ?_⟩
  · intro hheld
    refine ⟨hsteady.seated hheld.seated, ?_⟩
    show b.engine.servers = (lease _ s).toList
    rw [lease_setStage hserver, if_pos rfl, hheld.serving, hnone]
    rfl
  · intro _
    refine ⟨[.attached s], Engine.business_of_call rfl rfl, ?_⟩
    rw [hnone]
    rfl

theorem hands_changePhase (b : Bridge) (r : RouterId) (t : Transition) :
    Hands who b (b.apply (.changePhase r t)) :=
  .of_eq (b.engine_apply_changePhase r t) (b.servers_apply_changePhase r t)

theorem hands_takeError (b : Bridge) : Hands who b { b with engine := b.engine.takeError.1 } := by
  unfold Engine.takeError
  split
  · exact .refl b
  · refine .of_calls [.errorTaken] (Engine.business_of_call rfl rfl) ?_ rfl ?_
    · intro call hcall
      rw [List.mem_singleton.mp hcall]
      rfl
    · rintro ⟨hseated, hserving⟩
      exact ⟨hseated, hserving⟩

theorem Turn.hands {x : Bridge} (h : Turn s b x) : Hands (some s) b x := by
  cases h with
  | rests => exact .refl b
  | @begins server router hserver hbusy =>
    have hset : Hands (some s) b (b.setRouter server.router (router.after .begin)) :=
      .of_eq rfl rfl
    exact hset.trans (hands_setStage (b := b.setRouter server.router (router.after .begin))
      (mem_of_server? hserver) (Server.isSeated_of_not_isBusy hbusy).symm rfl)
  | @denied server handle hserver hstage =>
    refine Hands.trans (hands_setStage (mem_of_server? hserver) ?_ ?_) (hands_changePhase _ _ _)
    · rw [hstage, Stage.isSeated_resting]
      rfl
    · rw [hstage]
      cases handle <;> rfl
  | attaches hserver _ hattach => exact hands_attach (mem_of_server? hserver) hattach
  | @fails server table e hserver hstage hstart =>
    obtain ⟨message, _, rfl⟩ := Engine.startServer_eq_none hstart
    have hseat : server.stage.isSeated = true := by rw [hstage]; rfl
    have hhandle : server.stage.handle? = none := by rw [hstage]; rfl
    have hthere := mem_of_server? hserver
    exact hands_keep hthere hseat rfl rfl rfl rfl rfl fun hheld =>
      hheld.servers_eq_nil hthere hseat hhandle
  | @starts server table e handle hserver hstage hstart =>
    have he := Engine.startServer_eq_some hstart
    have hseat : server.stage.isSeated = true := by rw [hstage]; rfl
    have hhandle : server.stage.handle? = none := by rw [hstage]; rfl
    have hthere := mem_of_server? hserver
    -- no other server runs at the engine, so its list is the new handle alone
    have hkeep : Hands (some s) b ({ b with engine := e }.setStage s (.running handle)) := by
      subst he
      refine hands_keep hthere hseat rfl rfl rfl rfl rfl ?_
      intro hheld
      show b.engine.servers ++ _ = _
      rw [hheld.servers_eq_nil hthere hseat hhandle]
      rfl
    exact hkeep.trans (hands_changePhase _ _ _)
  | @abandons server x hserver hstage hback =>
    have hleave : Hands (some s) b ({ b with engine := b.engine.detach }.setStage s .idle) := by
      refine hands_leave (mem_of_server? hserver) ?_ ?_ <;> rw [hstage] <;> rfl
    have hchange : Hands (some s) ({ b with engine := b.engine.detach }.setStage s .idle) _ :=
      hands_changePhase _ server.router .rollback
    dsimp only [apply] at hchange
    rw [hback] at hchange
    exact (hleave.trans hchange).trans (hands_takeError x)
  | @strands server misuse hserver hstage =>
    refine hands_leave (mem_of_server? hserver) ?_ ?_ <;> rw [hstage] <;> rfl
  | @stops server handle hserver hstage =>
    have hseat : server.stage.isSeated = true := by rw [hstage]; rfl
    have hthere := mem_of_server? hserver
    refine hands_keep hthere hseat rfl rfl rfl rfl rfl ?_
    intro hheld
    have hlease : b.engine.servers = [(handle, server.port)] := by
      rw [hheld.serving, (hheld.seated.attached hthere).mpr hseat]
      show (b.lease s).toList = _
      unfold lease
      rw [hthere]
      show (server.stage.handle?.map _).toList = _
      rw [hstage]
      rfl
    show b.engine.servers.filter _ = []
    rw [hlease]
    simp
  | @detaches server hserver hstage =>
    refine hands_leave (mem_of_server? hserver) ?_ ?_ <;> rw [hstage] <;> rfl

theorem Spell.hands (h : Spell s b b') : Hands (some s) b b' := by
  induction h with
  | refl => exact .refl _
  | turn hturn _ ih => exact hturn.hands.trans ih
  | routine hroutine _ ih => exact (Hands.of_routine hroutine).trans ih

theorem hands_apply (ho : b.Orderly) (m : Move) : Hands m.actor? b (b.apply m) := by
  rcases apply_cases ho m with ⟨s, hactor, hspell⟩ | ⟨_, hroutine⟩ | ⟨r, t, rfl⟩
  · rw [hactor]
    exact hspell.hands
  · exact .of_routine hroutine
  · exact b.hands_changePhase r t

/-! ### Histories -/

theorem business_eq {m : Move} {calls : List Call}
    (h : (b.apply m).engine.business = calls ++ b.engine.business) :
    b.business m = calls.reverse := by
  unfold business
  rw [h, List.length_append, Nat.add_sub_cancel, List.take_left]

theorem held_new (profile : Profile) : (Bridge.new profile).Held := ⟨seated_new profile, rfl⟩

/-- Along every history the place goes from hand to hand. -/
theorem run_hands (ho : b.Orderly) (hheld : b.Held) (h : List Move) :
    (b.run h).Held ∧
      (b.seatLog h).foldlM SeatEvent.next? b.engine.attached = some (b.run h).engine.attached := by
  induction h generalizing b with
  | nil => exact ⟨hheld, rfl⟩
  | cons m rest ih =>
    have hstep := hands_apply ho m
    obtain ⟨calls, hcalls, hpasses⟩ := hstep.passes hheld
    obtain ⟨hheld', hlog⟩ := ih ((leads_apply ho m).orderly ho) (hstep.held hheld)
    refine ⟨hheld', ?_⟩
    rw [seatLog, List.foldlM_append, seatEvents, business_eq hcalls, hpasses]
    exact hlog

/-! ### Servers that stop -/

theorem server?_stepStop {server : Server} (hserver : b.server? s = some server) :
    (b.stepStop s).server? s = some { server with stage := server.stage.stopped } := by
  unfold stepStop
  rw [hserver]
  dsimp only
  cases hstage : server.stage with
  | running handle => exact server?_setStage (b := { b with engine := _ }) hserver .detaching
  | detaching => exact server?_setStage (b := { b with engine := _ }) hserver .idle
  | _ =>
    obtain ⟨port, router, limits, stage, dropped⟩ := server
    cases hstage
    exact hserver

theorem Held.stopped (h : b.Held) (ho : b.Orderly) {server : Server}
    (hserver : b.server? s = some server) (hstarting : server.isStarting = false) :
    (b.stop s).engine.attached ≠ some s := by
  have hidle : server.stage.stopped.stopped.isSeated = false := by
    unfold Server.isStarting at hstarting
    cases hstage : server.stage <;> rw [hstage] at hstarting <;> first | rfl | cases hstarting
  have hafter : (b.stop s).Held := (hands_apply ho (.stop s)).held h
  have hthere := mem_of_server? (server?_stepStop (server?_stepStop hserver))
  intro hattached
  rw [hafter.seated.attached hthere] at hattached
  exact Bool.false_ne_true (hidle.symm.trans hattached)

theorem Held.dropped (h : b.Held) (ho : b.Orderly) {server : Server}
    (hserver : b.server? s = some server) (hstarting : server.isStarting = false) :
    (b.dropServer s).engine.attached ≠ some s := by
  have hroutine := (routine_dropped (b.stop s) s).trans (routine_freeIfUnowned _ server.router)
  unfold dropServer
  rw [hserver]
  dsimp only
  rw [if_neg (Bool.eq_false_iff.mp hstarting), hroutine.engine.attached]
  exact h.stopped ho hserver hstarting

/-- A start that is refused the place says nothing to the engine. -/
theorem engine_denied {server : Server} {handle : Option Address}
    (hserver : b.server? s = some server) (hstage : server.stage = .attaching handle)
    (hheld : b.engine.attached.isSome = true) :
    (b.stepStart s).bridge.engine = b.engine := by
  have hdenied : b.engine.attach s = .error b.engine.profile.refusal := by
    unfold Engine.attach
    rw [if_pos hheld]
  unfold stepStart
  rw [hserver]
  dsimp only
  rw [hstage]
  dsimp only
  rw [hdenied]
  dsimp only
  unfold failStart
  dsimp only
  split
  · rfl
  · next x hx =>
    rcases changePhase_cases _ _ _ with ⟨misuse, h, _⟩ | ⟨router, _, _, h⟩
    · cases h.symm.trans hx
    · cases h.symm.trans hx
      rfl

/-- In every history, whichever turns the servers take and whichever starts fail: at most one server
runs, here and at the engine. The place at the engine belongs to the server whose stage says so,
and to the one that runs. It is taken only while it is free and left only by the server that has
it, so each taking is undone by one leaving of the same server. A start that is refused the place
leaves the engine alone, and a server that is stopped or given up does not have the place. -/
theorem place_is_never_taken_away (profile : Profile) (h : List Move) :
    let b := (Bridge.new profile).run h
    let events := (Bridge.new profile).seatLog h
    (∀ (s s' : ServerId) (server server' : Server), b.servers[s]? = some server →
      b.servers[s']? = some server' → server.isRunning = true → server'.isRunning = true → s = s') ∧
    b.engine.servers = (b.engine.attached.bind b.lease).toList ∧
    (∀ s, b.engine.attached = some s ↔
      ∃ server, b.servers[s]? = some server ∧ server.stage.isSeated = true) ∧
    (∀ (s : ServerId) (server : Server), b.servers[s]? = some server → server.isRunning = true →
      b.engine.attached = some s) ∧
    events.foldlM SeatEvent.next? none = some b.engine.attached ∧
    (∀ s, events.count (.taken s) =
      events.count (.left (some s)) + if b.engine.attached = some s then 1 else 0) ∧
    (∀ (s : ServerId) (server : Server) (handle : Option Address), b.server? s = some server →
      server.stage = .attaching handle → b.engine.attached.isSome = true →
      (b.stepStart s).bridge.engine = b.engine) ∧
    ∀ (s : ServerId) (server : Server), b.server? s = some server → server.isStarting = false →
      (b.stop s).engine.attached ≠ some s ∧ (b.dropServer s).engine.attached ≠ some s := by
  intro b events
  have ho : b.Orderly := orderly_run profile h
  obtain ⟨hheld, hlog⟩ := run_hands (orderly_new profile) (held_new profile) h
  have hrunning : ∀ {s : ServerId} {server : Server}, b.servers[s]? = some server →
      server.isRunning = true → b.engine.attached = some s :=
    hheld.seated.attached_of_isRunning
  refine ⟨?_, hheld.serving, hheld.seated, fun _ _ => hrunning, hlog, ?_, ?_, ?_⟩
  · intro s s' server server' hserver hserver' hruns hruns'
    exact Option.some.inj ((hrunning hserver hruns).symm.trans (hrunning hserver' hruns'))
  · intro s
    exact SeatEvent.count_taken s hlog
  · intro s server handle hserver hstage
    exact engine_denied hserver hstage
  · intro s server hserver hstarting
    exact ⟨hheld.stopped ho hserver hstarting, hheld.dropped ho hserver hstarting⟩

/-- One server runs, and another one begins to start. -/
def rivals : List Move :=
  [.addRouter, .addRouter, .addServer 0 8080 {}, .addServer 1 8081 {}, .start 0, .beginStart 1]

theorem rival_is_denied :
    let b := (Bridge.new .memory).run rivals
    b.engine.attached = some 0 ∧ (b.stepStart 1).bridge.engine = b.engine ∧
      (b.stop 0).engine.attached ≠ some 0 := by
  intro b
  have hfirst : b.server? 0 = some ⟨8080, 0, {}, .running 48, false⟩ := by decide +kernel
  have hsecond : b.server? 1 = some ⟨8081, 1, {}, .attaching none, false⟩ := by decide +kernel
  obtain ⟨-, -, -, hrunning, -, -, hdenied, hstopped⟩ := place_is_never_taken_away .memory rivals
  have hattached : b.engine.attached = some 0 := hrunning 0 _ (mem_of_server? hfirst) rfl
  have hheld : b.engine.attached.isSome = true := by rw [hattached]; rfl
  exact ⟨hattached, hdenied 1 _ none hsecond rfl hheld, (hstopped 0 _ hfirst rfl).1⟩

end Bridge
end RequestBridge
