import RequestBridge.Proofs.Bridge.Calm

/-! Starts that fail, and are tried again.

A start takes hold of a router, of the place at the engine and of the stage of a server, and one
that fails gives all of it back. So nothing is left of it but what the engine and the log have been
told, and a program comes to the same whether its failed starts are in it or not
(`failed_start_leaves_no_trace`).

What a failed start gives back is what it has found, and that may be a server that runs. It cannot
be one whose router is started, for such a router does not start again. But if a router is taken
back by hand in the middle of a start, the server may come to run on a router that is being built;
started once more it fails, and runs on (`running_server_fails_to_start`). -/
namespace RequestBridge

/-- Whether a move is not a single step of a start. -/
def Move.isWhole : Move → Bool
  | .beginStart _ => false
  | .stepStart _ => false
  | _ => true

theorem Engine.takeError_detach (e : Engine) :
    e.detach.takeError.1.known = e.known ∧ e.detach.takeError.1.servers = e.servers ∧
      e.detach.takeError.1.attached = none ∧ e.detach.takeError.2 = e.takeError.2 := by
  obtain ⟨_, _, _, _, _, _, _, _, _, lastError, _, _, _⟩ := e
  cases lastError <;> exact ⟨rfl, rfl, rfl, rfl⟩

namespace Bridge
variable {b b' x : Bridge} {s : ServerId}

/-! ### What is left of a failed start -/

/-- The bridge after a start that failed is the one before, but for what the engine and the log have
been told, and for the message that the engine kept. -/
theorem start_startup (hseated : b.Seated) {message : String}
    (h : (b.start s).2 = .error (.startup message)) :
    ∃ server router calls kept events, b.server? s = some server ∧
      b.router? server.router = some router ∧ router.phase = .building ∧
      (b.start s).1 = { b with engine := { b.engine with
        journal := calls ++ b.engine.journal
        lastError := kept } }.say events ∧
      (b.engine.attach s = .error message ∨ ∃ e failure, b.engine.attach s = .ok e ∧
        b.engine.failing = some failure ∧ message = b.engine.excuse failure) := by
  have hends := b.ends_start s
  generalize b.start s = ended at hends h ⊢
  cases hends with
  | misused misuse => cases h
  | started => cases h
  | @denied server router message events hserver hbusy hrouter hphase hattach =>
    cases h
    exact ⟨server, router, [], b.engine.lastError, events, hserver, hrouter, hphase, rfl,
      .inl hattach⟩
  | @failed server router failure calls events hserver hbusy hrouter hphase hfree hfailing =>
    cases h
    have hthere := mem_of_server? hserver
    -- the place was free, so the server did not run
    have hidle : server.stage = .idle := by
      have hrests := Server.stage_of_not_isBusy hbusy
      cases hhandle : server.stage.handle? with
      | none =>
        rw [hhandle] at hrests
        exact hrests
      | some handle =>
        have hseat : server.stage.isSeated = true := by
          rw [Server.isSeated_of_not_isBusy hbusy, hhandle]
          rfl
        cases hfree.symm.trans ((hseated.attached hthere).mpr hseat)
    have hself : b.setStage s .idle = b := by
      rw [← hidle]
      exact setStage_self hthere
    have hattach : ∃ e, b.engine.attach s = .ok e := by
      unfold Engine.attach
      rw [hfree]
      exact ⟨_, rfl⟩
    obtain ⟨e, hattach⟩ := hattach
    have hengine : { b.engine with
        journal := calls ++ b.engine.journal, attached := none, lastError := none } =
        { b.engine with journal := calls ++ b.engine.journal, lastError := none } :=
      congrArg (fun attached => { b.engine with
        journal := calls ++ b.engine.journal, attached, lastError := none }) hfree.symm
    refine ⟨server, router, calls, none, events, hserver, hrouter, hphase, ?_,
      .inr ⟨e, failure, hattach, hfailing, rfl⟩⟩
    show say { b.setStage s .idle with engine := _ } events = _
    rw [hself, hengine]

theorem alike_start_startup (hseated : b.Seated) {message : String}
    (h : (b.start s).2 = .error (.startup message)) : b.Alike (b.start s).1 := by
  obtain ⟨server, router, calls, kept, events, -, -, -, hleft, -⟩ := start_startup hseated h
  rw [hleft]
  exact ⟨⟨calls ++ b.engine.journal, b.engine.cancelled, kept, rfl⟩, rfl, rfl, rfl, rfl, rfl⟩

/-! ### The last step of a failed start -/

/-- The bridge after the end of a start that failed: the router is taken back, and the server
rests. -/
theorem failStart_startup {server : Server} {event text : String}
    {message : Engine → Engine × String}
    (h : (b.failStart s server event message).outcome = some (.error (.startup text))) :
    ∃ router events, b.router? server.router = some router ∧ router.phase = .starting ∧
      text = (message b.engine).2 ∧
      (b.failStart s server event message).bridge =
        (({ b with engine := (message b.engine).1 }.setRouter server.router
          (router.after .rollback)).setStage s (.resting server.stage.handle?)).say events := by
  unfold failStart at h ⊢
  dsimp only at h ⊢
  rcases changePhase_cases (b.setStage s (.resting server.stage.handle?)) server.router
    .rollback with ⟨misuse, hback, _⟩ | ⟨router, hrouter, hphase, hback⟩
  · rw [hback] at h
    cases h
  · rw [hback] at h ⊢
    cases h
    rw [router?_setStage] at hrouter
    exact ⟨router, _, hrouter, hphase, rfl, rfl⟩

/-- What the last step of a start that failed leaves, whatever has come between its steps: the
router is being built again with what it had, the server rests with the handle that it has if it
runs, and of the engine it keeps nothing. -/
structure TakenBack (b : Bridge) (s : ServerId) (server : Server) (router : Router) (b' : Bridge) :
    Prop where
  router : b'.router? server.router = some { router with phase := .building }
  rests : b'.server? s = some { server with stage := .resting server.stage.handle? }
  known : b'.engine.known = b.engine.known
  live : b'.engine.servers = b.engine.servers
  attached : b'.engine.attached = b.engine.attached ∨
    (b.engine.attached = some s ∧ b'.engine.attached = none)

theorem stepStart_startup (hseated : b.Seated) {message : String}
    (h : (b.stepStart s).outcome = some (.error (.startup message))) :
    ∃ server router, b.server? s = some server ∧ b.router? server.router = some router ∧
      router.phase = .starting ∧ b.TakenBack s server router (b.stepStart s).bridge ∧
      (b.engine.attach s = .error message ∨ message = b.engine.takeError.2.getD unexpected) := by
  -- what is left, with the engine as it is then
  have hleft : ∀ {server : Server} {router : Router} {e : Engine} {events},
      b.server? s = some server → b.router? server.router = some router →
      e.known = b.engine.known → e.servers = b.engine.servers →
      (e.attached = b.engine.attached ∨ (b.engine.attached = some s ∧ e.attached = none)) →
      b.TakenBack s server router
        ((({ b with engine := e }.setRouter server.router (router.after .rollback)).setStage s
          (.resting server.stage.handle?)).say events) := by
    intro server router e events hserver hrouter hknown hlive hattached
    refine ⟨?_, ?_, hknown, hlive, hattached⟩
    · exact (router?_setStage _ s _ server.router).trans
        (router?_setRouter (b := { b with engine := e }) hrouter _)
    · exact server?_setStage (b := { b with engine := e }.setRouter server.router
        (router.after .rollback)) hserver _
  unfold stepStart at h ⊢
  cases hserver : b.server? s with
  | none =>
    rw [hserver] at h
    cases h
  | some server =>
    rw [hserver] at h
    dsimp only at h ⊢
    cases hstage : server.stage with
    | attaching handle =>
      rw [hstage] at h
      dsimp only at h ⊢
      cases hattach : b.engine.attach s with
      | error text =>
        rw [hattach] at h
        obtain ⟨router, events, hrouter, hphase, hmessage, hbridge⟩ := failStart_startup h
        rw [hbridge]
        refine ⟨server, router, rfl, hrouter, hphase,
          hleft hserver hrouter rfl rfl (.inl rfl), .inl ?_⟩
        exact congrArg Except.error hmessage.symm
      | ok e =>
        rw [hattach] at h
        cases h
    | launching =>
      rw [hstage] at h
      dsimp only at h
      split at h
      · cases h
      · split at h <;> cases h
    | abandoning =>
      rw [hstage] at h
      dsimp only at h ⊢
      obtain ⟨router, events, hrouter, hphase, hmessage, hbridge⟩ := failStart_startup h
      have hheld : b.engine.attached = some s :=
        (hseated.attached (mem_of_server? hserver)).mpr (by rw [hstage]; rfl)
      obtain ⟨hknown, hlive, hfree, htext⟩ := b.engine.takeError_detach
      rw [hbridge]
      refine ⟨server, router, rfl, hrouter, hphase, hleft hserver hrouter hknown hlive
        (.inr ⟨hheld, hfree⟩), .inr ?_⟩
      rw [← htext]
      exact hmessage
    | _ =>
      rw [hstage] at h
      cases h

/-! ### Programs without their failed starts -/

/-- Whether a move is a whole start that fails. -/
def failsToStart (b : Bridge) : Move → Bool
  | .start s =>
    match (b.start s).2 with
    | .error (.startup _) => true
    | _ => false
  | _ => false

/-- A program without the starts that fail in it. -/
def withoutFailures (b : Bridge) : List Move → List Move
  | [] => []
  | m :: rest =>
    if b.failsToStart m then (b.apply m).withoutFailures rest
    else m :: (b.apply m).withoutFailures rest

theorem failsToStart_eq_true {m : Move} (h : b.failsToStart m = true) :
    ∃ s message, m = .start s ∧ (b.start s).2 = .error (.startup message) := by
  unfold failsToStart at h
  split at h
  · next s =>
    split at h
    · next message hmessage => exact ⟨s, message, rfl, hmessage⟩
    · cases h
  · cases h

/-- A program comes to the same without its failed starts, step by step. -/
theorem alike_withoutFailures (ho : b.Orderly) (hseated : b.Seated) (h : b.Alike b')
    {program : List Move} (hmanaged : ∀ m ∈ program, m.isManagement = true) :
    (b.run program).Alike (b'.run (b.withoutFailures program)) := by
  induction program generalizing b b' with
  | nil => exact h
  | cons m rest ih =>
    have ho' := (leads_apply ho m).orderly ho
    have hseated' := (apply_stands ho m).1 hseated
    have hrest := fun m hm => hmanaged m (List.mem_cons_of_mem _ hm)
    rw [withoutFailures]
    split
    · next hfails =>
      obtain ⟨s, message, rfl, hfailed⟩ := failsToStart_eq_true hfails
      have hsame : (b.apply (.start s)).Alike b' :=
        (alike_start_startup hseated hfailed).symm.trans h
      exact ih ho' hseated' hsame hrest
    · exact ih ho' hseated' (h.apply m (hmanaged m List.mem_cons_self)) hrest

/-! ### Programs of whole moves -/

/-- No server is in the middle of a start. -/
def Settled (b : Bridge) : Prop :=
  ∀ (s : ServerId) (server : Server), b.servers[s]? = some server → server.isStarting = false

namespace Settled

theorem setStage (h : b.Settled) {stage : Stage}
    (hstage : ∀ server : Server, ({ server with stage } : Server).isStarting = false)
    (s : ServerId) : (b.setStage s stage).Settled := by
  intro i server hserver
  rw [getElem?_setStage] at hserver
  split at hserver
  · obtain ⟨old, _, rfl⟩ := Option.map_eq_some_iff.mp hserver
    exact hstage old
  · exact h i server hserver

theorem routine (h : b.Settled) (hroutine : Routine b x) : x.Settled := by
  intro s server hserver
  rcases hroutine.servers.new hserver with ⟨old, hold, hlasts⟩ | hidle
  · exact (Server.isStarting_congr hlasts.stage).trans (h s old hold)
  · unfold Server.isStarting
    rw [hidle]

theorem start (h : b.Settled) (s : ServerId) : (b.start s).1.Settled := by
  have hends := b.ends_start s
  generalize b.start s = ended at hends
  cases hends with
  | misused => exact h
  | denied => exact h
  | @failed server router failure calls =>
    exact setStage (b := { b with engine := _ }) h (fun _ => rfl) s
  | @started server router e =>
    have hset : Settled ({ b with engine := e }.setRouter server.router
      ((router.after .begin).after .commit)) := h
    exact hset.setStage (fun _ => rfl) s

theorem stepStop (h : b.Settled) (s : ServerId) : (b.stepStop s).Settled := by
  unfold Bridge.stepStop
  split
  · exact h
  · split
    · exact setStage (b := { b with engine := _ }) h (fun _ => rfl) s
    · exact setStage (b := { b with engine := _ }) h (fun _ => rfl) s
    · exact h

theorem dropServer (h : b.Settled) (s : ServerId) : (b.dropServer s).Settled := by
  unfold Bridge.dropServer
  split
  · exact h
  · split
    · exact h
    · exact ((h.stepStop s).stepStop s).routine
        ((routine_dropped _ s).trans (routine_freeIfUnowned _ _))

theorem apply (h : b.Settled) (ho : b.Orderly) {m : Move} (hwhole : m.isWhole = true) :
    (b.apply m).Settled := by
  cases hroutine : m.isRoutine with
  | true => exact h.routine (routine_apply ho hroutine)
  | false =>
    cases m with
    | changePhase r t =>
      intro s server hserver
      rw [servers_apply_changePhase] at hserver
      exact h s server hserver
    | stepStop s => exact h.stepStop s
    | start s => exact h.start s
    | stop s => exact (h.stepStop s).stepStop s
    | dropServer s => exact h.dropServer s
    | _ =>
      first
      | exact absurd hwhole Bool.false_ne_true
      | exact absurd hroutine.symm Bool.false_ne_true

end Settled

/-- No one can meddle with a start where starts are made as a whole. -/
theorem unmeddled_of_isWhole (ho : b.Orderly) (h : b.Settled) {history : List Move}
    (hwhole : ∀ m ∈ history, m.isWhole = true) (r : RouterId) : b.Unmeddled r history := by
  induction history generalizing b with
  | nil => trivial
  | cons m rest ih =>
    refine ⟨?_, ih ((leads_apply ho m).orderly ho) (h.apply ho (hwhole m List.mem_cons_self))
      fun m hm => hwhole m (List.mem_cons_of_mem _ hm)⟩
    unfold meddles
    split
    · refine Bool.eq_false_iff.mpr ?_
      intro hmeddles
      obtain ⟨server, hserver, hstarts⟩ := List.any_eq_true.mp (Bool.and_eq_true_iff.mp hmeddles).2
      obtain ⟨s, hs⟩ := List.getElem?_of_mem hserver
      rw [h s server hs] at hstarts
      cases hstarts
    · rfl

/-! ### No trace -/

/-- Two bridges with the same routers, servers and routes, and the same server at the engine. -/
structure Matches (b b' : Bridge) : Prop where
  routers : b'.routers = b.routers
  servers : b'.servers = b.servers
  known : b'.engine.known = b.engine.known
  attached : b'.engine.attached = b.engine.attached
  live : b'.engine.servers = b.engine.servers
  dispatcher : ∀ s, b'.dispatcher? s = b.dispatcher? s

theorem Matches.of_parts (hrouters : b'.routers = b.routers) (hservers : b'.servers = b.servers)
    (hknown : b'.engine.known = b.engine.known) (hattached : b'.engine.attached = b.engine.attached)
    (hlive : b'.engine.servers = b.engine.servers) : b.Matches b' := by
  refine ⟨hrouters, hservers, hknown, hattached, hlive, ?_⟩
  intro s
  unfold dispatcher?
  rw [hrouters, hservers]

theorem Alike.matches (h : b.Alike b') : b.Matches b' := by
  obtain ⟨journal, cancelled, lastError, hengine⟩ := h.engine
  exact .of_parts h.routers h.servers (by rw [hengine]) (by rw [hengine]) (by rw [hengine])

theorem start_matches (hseated : b.Seated) {message : String}
    (h : (b.start s).2 = .error (.startup message)) : b.Matches (b.start s).1 := by
  obtain ⟨server, router, calls, kept, events, -, -, -, hleft, -⟩ := start_startup hseated h
  rw [hleft]
  exact .of_parts rfl rfl rfl rfl rfl

/-- A start that fails leaves no trace. Wherever it is called, the routers, the servers, the routes
at the engine and the place there are what they were, its router is being built and is not sealed,
and the error says why. If other things come between its steps, its last step still takes the router
back and keeps nothing of the engine. Its server does not run, unless its router has been taken back
by hand while a server of it was starting; in a history of whole moves no one can do that. A program
comes to the same without its failed starts: the same routes under the same numbers, the same
chains, the same server at the engine, and the same answers to whatever is asked next. -/
theorem failed_start_leaves_no_trace (profile : Profile) :
    (∀ (h : List Move) (s : ServerId) (message : String),
      let b := (Bridge.new profile).run h
      let b' := (b.start s).1
      (b.start s).2 = .error (.startup message) →
        b.Matches b' ∧
        (∃ server router, b'.server? s = some server ∧ b'.router? server.router = some router ∧
          router.phase = .building ∧ router.registry.isSealed = false ∧
          ((Bridge.new profile).Unmeddled server.router h → server.isRunning = false)) ∧
        (b.engine.attach s = .error message ∨
          ∃ e failure, b.engine.attach s = .ok e ∧ b.engine.failing = some failure ∧
            message = b.engine.excuse failure)) ∧
    (∀ (h : List Move) (s : ServerId) (message : String),
      let b := (Bridge.new profile).run h
      let b' := (b.stepStart s).bridge
      (b.stepStart s).outcome = some (.error (.startup message)) →
        ∃ server router, b.server? s = some server ∧ b.router? server.router = some router ∧
          router.registry.isSealed = false ∧ b.TakenBack s server router b' ∧
          ((Bridge.new profile).Unmeddled server.router h →
            ∀ server', b'.server? s = some server' → server'.isRunning = false) ∧
          (b.engine.attach s = .error message ∨ message = b.engine.takeError.2.getD unexpected)) ∧
    (∀ program : List Move, (∀ m ∈ program, m.isManagement = true) →
      let b := (Bridge.new profile).run program
      let b' := (Bridge.new profile).run ((Bridge.new profile).withoutFailures program)
      b.Matches b' ∧
      (∀ r path route, (b'.addRoute r path route).2 = (b.addRoute r path route).2) ∧
      (∀ r base stages items,
        (b'.addGroup r base stages items).2 = (b.addGroup r base stages items).2) ∧
      ∀ s, (b'.start s).2 = (b.start s).2 ∧ (b.start s).1.Matches (b'.start s).1) ∧
    ∀ h : List Move, (∀ m ∈ h, m.isWhole = true) → ∀ r, (Bridge.new profile).Unmeddled r h := by
  have ho := orderly_new profile
  have hsound : ∀ (h : List Move) {r : RouterId} {router : Router},
      ((Bridge.new profile).run h).router? r = some router → router.Sound := by
    intro h r router hrouter
    obtain ⟨mounted, hmounted, rfl⟩ := mounted_of_router? hrouter
    exact sound_run profile h hmounted
  refine ⟨?_, ?_, ?_, ?_⟩
  · intro h s message b b' hfailed
    have hseated : b.Seated := seated_run profile h
    obtain ⟨server, router, _, _, _, hserver, hrouter, hphase, _, hmessage⟩ :=
      start_startup hseated hfailed
    have hmatches : b.Matches b' := start_matches hseated hfailed
    have hserver' : b'.server? s = some server := by
      unfold server?
      rw [hmatches.servers]
      exact hserver
    have hrouter' : b'.router? server.router = some router := by
      unfold router? isOwned
      rw [hmatches.servers, hmatches.routers]
      exact hrouter
    have hopen := (hsound h hrouter).open hphase
    refine ⟨hmatches, ⟨server, router, hserver', hrouter', hphase, hopen, ?_⟩, hmessage⟩
    intro hunmeddled
    have hcalm : b.Calm server.router := calm_run ho (calm_new profile _) hunmeddled
    exact hcalm.not_isRunning ((phaseOf_of_router? hrouter).trans (congrArg some hphase))
      (mem_of_server? hserver) rfl
  · intro h s message b b' hfailed
    obtain ⟨server, router, hserver, hrouter, hphase, hback, hmessage⟩ :=
      stepStart_startup (seated_run profile h) hfailed
    have hopen : router.registry.isSealed = false := by
      refine Bool.eq_false_iff.mpr ?_
      intro hsealed
      cases hphase.symm.trans ((hsound h hrouter).mp hsealed)
    refine ⟨server, router, hserver, hrouter, hopen, hback, ?_, hmessage⟩
    intro hunmeddled server' hserver'
    have hcalm : b'.Calm server.router := calm_apply (orderly_run profile h) (m := .stepStart s) rfl
      (calm_run ho (calm_new profile _) hunmeddled)
    cases hserver'.symm.trans hback.rests
    exact hcalm.not_isRunning (phaseOf_of_router? hback.router) (mem_of_server? hserver') rfl
  · intro program hmanaged b b'
    have halike : b.Alike b' := alike_withoutFailures ho (seated_new profile) (.refl _) hmanaged
    refine ⟨halike.matches, ?_, ?_, ?_⟩
    · intro r path route
      exact (halike.addRoute r path route).2
    · intro r base stages items
      exact (halike.addGroup r base stages items).2
    · intro s
      exact ⟨(halike.start s).2, (halike.start s).1.matches⟩
  · intro h hwhole r
    exact unmeddled_of_isWhole ho (fun _ _ hserver => nomatch hserver) hwhole r

/-- A server on an engine that does not start any. -/
def hopeless : List Move :=
  [.addRouter, .addRoute 0 "first" ⟨[], fun request => .done (.ok ⟨200, request.body⟩)⟩,
    .addServer 0 8080 {}, .failStarts (some none)]

/-- A start that fails, and what makes the next one succeed. -/
def retrying : List Move :=
  hopeless ++ [.start 0, .addRoute 0 "second" ⟨[], fun request => .done (.ok ⟨200, request.body⟩)⟩,
    .failStarts none]

theorem second_try_is_like_a_first :
    let b := (Bridge.new .memory).run retrying
    let b' := (Bridge.new .memory).run ((Bridge.new .memory).withoutFailures retrying)
    ((Bridge.new .memory).withoutFailures retrying).length = 6 ∧ b.Matches b' ∧
      (b.start 0).2 = .ok () ∧ (b'.start 0).2 = .ok () ∧
      (∃ server, (((Bridge.new .memory).run hopeless).start 0).1.server? 0 = some server ∧
        server.isRunning = false) ∧
      ∃ server router, ((Bridge.new .memory).run
        (hopeless ++ [.beginStart 0, .stepStart 0, .stepStart 0])).TakenBack 0 server router
          ((Bridge.new .memory).run (hopeless ++ [.beginStart 0, .stepStart 0, .stepStart 0])
            |>.stepStart 0).bridge := by
  intro b b'
  obtain ⟨hstart, hstep, hprogram, hwhole⟩ := failed_start_leaves_no_trace .memory
  obtain ⟨hmatches, -, -, hnext⟩ :=
    hprogram retrying (by decide)
  have hended : (b.start 0).2 = .ok () := by decide +kernel
  obtain ⟨-, ⟨server, _, hserver, -, -, -, hruns⟩, -⟩ :=
    hstart hopeless 0 unexpected (by decide +kernel)
  obtain ⟨server', router, -, -, -, hback, -⟩ :=
    hstep (hopeless ++ [.beginStart 0, .stepStart 0, .stepStart 0]) 0 unexpected (by decide +kernel)
  exact ⟨by decide +kernel, hmatches, hended, (hnext 0).1.trans hended,
    ⟨server, hserver, hruns (hwhole hopeless (by decide) _)⟩, server', router, hback⟩

/-- A start during which the router is taken back by hand. -/
def meddled : List Move :=
  [.addRouter, .addRoute 0 "first" ⟨[], fun request => .done (.ok ⟨200, request.body⟩)⟩,
    .addServer 0 8080 {}, .beginStart 0, .changePhase 0 .rollback, .stepStart 0, .stepStart 0]

/-- A server that has come to run on a router that was taken back by hand is started again, fails,
and runs on. -/
theorem running_server_fails_to_start :
    let b := (Bridge.new .memory).run meddled
    (b.start 0).2 = .error (.startup "a server is already running on this engine") ∧
      ((b.start 0).1.router? 0).map (·.phase) = some .building ∧
      ((b.start 0).1.server? 0).map (·.isRunning) = some true := by
  decide +kernel

end Bridge
end RequestBridge
