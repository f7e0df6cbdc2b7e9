import RequestBridge.Proofs.Bridge.Turns

/-! Whole starts.

While a server starts, the bridge is what it was but for the engine, the phase of one router and
the stage of the server (`underWay`). A start that fails puts the phase and the stage back, so all
that is left of it is what the engine and the log have been told. A whole start comes to one of
four ends (`ends_start`). -/
namespace RequestBridge

/-- The message of a start that the engine failed, with what it has to say about it. -/
def Engine.excuse (e : Engine) (failure : Option Bytes) : String :=
  (failure.map fun message => Utf8.lossy (e.profile.visible message)).getD Bridge.unexpected

namespace Bridge
variable {b x : Bridge} {s : ServerId} {server : Server} {router : Router}

theorem setStage_setStage (b : Bridge) (s : ServerId) (stage stage' : Stage) :
    (b.setStage s stage).setStage s stage' = b.setStage s stage' := by
  unfold setStage
  dsimp only
  rw [List.modify_modify_eq]
  rfl

theorem setRouter_setRouter (b : Bridge) (r : RouterId) (router router' : Router) :
    (b.setRouter r router).setRouter r router' = b.setRouter r router' := by
  unfold setRouter
  dsimp only
  rw [List.modify_modify_eq]
  rfl

/-- A server that comes to its own stage changes nothing. -/
theorem setStage_self (h : b.servers[s]? = some server) : b.setStage s server.stage = b := by
  unfold setStage
  rw [modify_eq_self]
  intro x hx
  rw [Option.some.inj (hx.symm.trans h)]

theorem router?_setRouter {r : RouterId} {old : Router} (h : b.router? r = some old)
    (router : Router) : (b.setRouter r router).router? r = some router := by
  obtain ⟨mounted, hmounted, hold⟩ := mounted_of_router? h
  have hthere : (b.setRouter r router).routers[r]? = some { mounted with router } := by
    rw [getElem?_setRouter hmounted, if_pos rfl]
  have howned : (b.setRouter r router).isOwned r = b.isOwned r := by
    unfold isOwned
    rw [hthere, hmounted]
    rfl
  unfold router? at h ⊢
  rw [howned, hthere]
  split at h
  · next hkept =>
    rw [if_pos hkept]
    rfl
  · cases h

/-! ### Under way -/

/-- The bridge while a server starts: its router has begun to start. -/
def underWay (b : Bridge) (s : ServerId) (r : RouterId) (router : Router) (stage : Stage)
    (e : Engine) : Bridge :=
  ({ b with engine := e }.setRouter r (router.after .begin)).setStage s stage

theorem engine_underWay (b : Bridge) (s : ServerId) (r : RouterId) (router : Router)
    (stage : Stage) (e : Engine) : (b.underWay s r router stage e).engine = e := rfl

theorem underWay_setStage (b : Bridge) (s : ServerId) (r : RouterId) (router : Router)
    (stage stage' : Stage) (e e' : Engine) :
    ({ b.underWay s r router stage e with engine := e' }).setStage s stage' =
      b.underWay s r router stage' e' := by
  unfold underWay
  exact setStage_setStage ({ b with engine := e' }.setRouter r (router.after .begin)) s stage stage'

section UnderWay
variable (hserver : b.server? s = some server) (hrouter : b.router? server.router = some router)

include hserver in
theorem server?_underWay (stage : Stage) (e : Engine) :
    (b.underWay s server.router router stage e).server? s = some { server with stage } := by
  unfold underWay
  exact server?_setStage (b := { b with engine := e }.setRouter server.router (router.after .begin))
    hserver stage

include hrouter in
theorem changePhase_underWay (s : ServerId) {t : Transition} (ht : t.source = .starting)
    (stage : Stage) (e : Engine) :
    (b.underWay s server.router router stage e).changePhase server.router t =
      .ok (({ b with engine := e }.setRouter server.router
        ((router.after .begin).after t)).setStage s stage) := by
  have hthere : (b.underWay s server.router router stage e).router? server.router =
      some (router.after .begin) := by
    unfold underWay
    rw [router?_setStage]
    exact router?_setRouter (b := { b with engine := e }) hrouter _
  rw [changePhase_eq hthere ht.symm]
  exact congrArg (fun x => Except.ok (x.setStage s stage))
    (setRouter_setRouter { b with engine := e } server.router (router.after .begin) _)

theorem after_begin_rollback (hphase : router.phase = .building) :
    (router.after .begin).after .rollback = router := by
  obtain ⟨table, phase, registry⟩ := router
  cases hphase
  rfl

include hrouter in
/-- A start that fails puts back the phase of its router, and its server rests. -/
theorem failStart_underWay (hphase : router.phase = .building) (stage : Stage) (e : Engine)
    (event : String) (message : Engine → Engine × String) :
    ∃ events, (b.underWay s server.router router stage e).failStart s { server with stage } event
        message =
      ⟨({ b with engine := (message e).1 }.setStage s (.resting stage.handle?)).say events,
        some (.error (.startup (message e).2))⟩ := by
  have hself : { b with engine := e }.setRouter server.router
      ((router.after .begin).after .rollback) = { b with engine := e } := by
    rw [after_begin_rollback hphase]
    exact setRouter_self (b := { b with engine := e }) hrouter
  have hback := changePhase_underWay hrouter s (t := .rollback) rfl (.resting stage.handle?) e
  rw [hself] at hback
  have hrest : (b.underWay s server.router router stage e).setStage s (.resting stage.handle?) =
      b.underWay s server.router router (.resting stage.handle?) e :=
    b.underWay_setStage s server.router router stage _ e e
  unfold failStart
  dsimp only
  rw [hrest, hback]
  exact ⟨_, rfl⟩

include hserver hrouter in
theorem beginStart_eq (hbusy : server.isBusy = false) (hphase : router.phase = .building) :
    b.beginStart s =
      ⟨b.underWay s server.router router (.attaching server.stage.handle?) b.engine, none⟩ := by
  unfold beginStart
  rw [hserver]
  dsimp only
  rw [hbusy, changePhase_eq (t := .begin) hrouter hphase]
  rfl

/-! ### The steps of a start that has begun -/

include hserver hrouter in
theorem stepStart_denied (hphase : router.phase = .building) (handle : Option Address) {e : Engine}
    {message : String} (hattach : e.attach s = .error message) :
    ∃ events, (b.underWay s server.router router (.attaching handle) e).stepStart s =
      ⟨({ b with engine := e }.setStage s (.resting handle)).say events,
        some (.error (.startup message))⟩ := by
  obtain ⟨events, hfail⟩ := failStart_underWay (s := s) hrouter hphase (.attaching handle) e
    "failed to attach dispatcher" (·, message)
  refine ⟨events, ?_⟩
  unfold stepStart
  rw [server?_underWay hserver]
  dsimp only
  rw [engine_underWay, hattach]
  exact hfail

include hserver in
theorem stepStart_attaching {handle : Option Address} {e e' : Engine}
    (hattach : e.attach s = .ok e') :
    (b.underWay s server.router router (.attaching handle) e).stepStart s =
      ⟨b.underWay s server.router router .launching e', none⟩ := by
  unfold stepStart
  rw [server?_underWay hserver]
  dsimp only
  rw [engine_underWay, hattach]
  show (⟨_, none⟩ : Progress) = _
  rw [underWay_setStage]

include hserver in
theorem stepStart_failed (router : Router) {e : Engine} {failure : Option Bytes}
    (hfailing : e.failing = some failure) :
    ∃ call, (b.underWay s server.router router .launching e).stepStart s =
      ⟨b.underWay s server.router router .abandoning ({ e with lastError := failure }.record call),
        none⟩ := by
  have hstart : ∀ table, e.startServer server.port table =
      ({ e with lastError := failure }.record (.startFailed server.port table), none) := by
    intro table
    unfold Engine.startServer
    rw [hfailing]
  unfold stepStart
  rw [server?_underWay hserver]
  dsimp only
  rw [engine_underWay, hstart]
  dsimp only
  rw [underWay_setStage]
  exact ⟨_, rfl⟩

include hserver hrouter in
theorem stepStart_launched {e : Engine} (hfailing : e.failing = none) :
    ∃ e' handle events, (b.underWay s server.router router .launching e).stepStart s =
        ⟨(({ b with engine := e' }.setRouter server.router
          ((router.after .begin).after .commit)).setStage s (.running handle)).say events,
          some (.ok ())⟩ ∧
      e'.attached = e.attached ∧ e'.lastError = e.lastError := by
  have hstart : ∀ table, e.startServer server.port table =
      ({ e with
          next := e.next + e.profile.stride
          servers := e.servers ++ [(e.next, server.port)] }.record
        (.serverStarted e.next server.port table), some e.next) := by
    intro table
    unfold Engine.startServer
    split
    · next message hmessage => cases hfailing.symm.trans hmessage
    · rfl
  unfold stepStart
  rw [server?_underWay hserver]
  dsimp only
  rw [engine_underWay, hstart]
  dsimp only
  rw [underWay_setStage, changePhase_underWay hrouter s rfl]
  exact ⟨_, _, _, rfl, rfl, rfl⟩

include hserver hrouter in
theorem stepStart_abandoned (hphase : router.phase = .building) (e : Engine) :
    ∃ events, (b.underWay s server.router router .abandoning e).stepStart s =
      ⟨({ b with engine := e.detach.takeError.1 }.setStage s .idle).say events,
        some (.error (.startup (e.detach.takeError.2.getD unexpected)))⟩ := by
  obtain ⟨events, hfail⟩ := failStart_underWay (s := s) hrouter hphase .abandoning e.detach
    "server failed to start" fun e => (e.takeError.1, e.takeError.2.getD unexpected)
  refine ⟨events, ?_⟩
  unfold stepStart
  rw [server?_underWay hserver]
  exact hfail

end UnderWay

/-! ### The ends of a start -/

/-- How a whole start may end, with what is left of it. -/
inductive Ends (b : Bridge) (s : ServerId) : Bridge × Except StartError Unit → Prop
  | misused (misuse : Misuse) : Ends b s (b, .error (.misuse misuse))
  | denied {server router message events} (hserver : b.server? s = some server)
      (hbusy : server.isBusy = false) (hrouter : b.router? server.router = some router)
      (hphase : router.phase = .building) (hattach : b.engine.attach s = .error message) :
      Ends b s (b.say events, .error (.startup message))
  | failed {server router failure calls events} (hserver : b.server? s = some server)
      (hbusy : server.isBusy = false) (hrouter : b.router? server.router = some router)
      (hphase : router.phase = .building) (hfree : b.engine.attached = none)
      (hfailing : b.engine.failing = some failure) :
      Ends b s
        (({ b with engine := { b.engine with
            journal := calls ++ b.engine.journal
            attached := none
            lastError := none } }.setStage s .idle).say events,
          .error (.startup (b.engine.excuse failure)))
  | started {server router e handle events} (hserver : b.server? s = some server)
      (hbusy : server.isBusy = false) (hrouter : b.router? server.router = some router)
      (hphase : router.phase = .building) (hfree : b.engine.attached = none)
      (hfailing : b.engine.failing = none) (hattached : e.attached = some s)
      (herror : e.lastError = b.engine.lastError) :
      Ends b s
        ((({ b with engine := e }.setRouter server.router
          ((router.after .begin).after .commit)).setStage s (.running handle)).say events, .ok ())

theorem beginStart_cases (b : Bridge) (s : ServerId) :
    (∃ misuse, b.beginStart s = ⟨b, some (.error (.misuse misuse))⟩) ∨
    ∃ server router, b.server? s = some server ∧ server.isBusy = false ∧
      b.router? server.router = some router ∧ router.phase = .building := by
  unfold beginStart
  cases hserver : b.server? s with
  | none => exact .inl ⟨_, rfl⟩
  | some server =>
    dsimp only
    cases hbusy : server.isBusy with
    | true => exact .inl ⟨_, rfl⟩
    | false =>
      rcases b.changePhase_cases server.router .begin with
        ⟨misuse, h, _⟩ | ⟨router, hrouter, hphase, _⟩
      · rw [h]
        exact .inl ⟨_, rfl⟩
      · exact .inr ⟨server, router, rfl, hbusy, hrouter, hphase⟩

theorem finishStart_of_outcome {steps : Nat} {outcome : Except StartError Unit}
    (h : b.stepStart s = ⟨x, some outcome⟩) : b.finishStart s (steps + 1) = (x, outcome) := by
  unfold finishStart
  rw [h]

theorem finishStart_of_none {steps : Nat} (h : b.stepStart s = ⟨x, none⟩) :
    b.finishStart s (steps + 1) = x.finishStart s steps := by
  rw [finishStart, h]

/-- What is left of a start that the engine failed, once the server has left the place again. -/
theorem takeError_failed {e e' : Engine} (hattach : e.attach s = .ok e') (failure : Option Bytes)
    (call : Call) :
    let left := ({ e' with lastError := failure }.record call).detach
    (∃ calls, left.takeError.1 =
      { e with journal := calls ++ e.journal, attached := none, lastError := none }) ∧
      left.takeError.2.getD unexpected = e.excuse failure := by
  obtain ⟨_, rfl⟩ := Engine.attach_eq_ok hattach
  cases failure with
  | none => exact ⟨⟨[.detached, call, .attached s], rfl⟩, rfl⟩
  | some message => exact ⟨⟨[.errorTaken, .detached, call, .attached s], rfl⟩, rfl⟩

/-- A whole start is refused, fails for want of the place, fails because the engine does not start
the server, or succeeds. -/
theorem ends_start (b : Bridge) (s : ServerId) : Ends b s (b.start s) := by
  rcases b.beginStart_cases s with ⟨misuse, h⟩ | ⟨server, router, hserver, hbusy, hrouter, hphase⟩
  · unfold start
    rw [h]
    exact .misused misuse
  have hstart : b.start s = (b.underWay s server.router router
      (.attaching server.stage.handle?) b.engine).finishStart s 3 := by
    unfold start
    rw [beginStart_eq hserver hrouter hbusy hphase]
  rw [hstart]
  cases hattach : b.engine.attach s with
  | error message =>
    obtain ⟨events, hstep⟩ :=
      stepStart_denied hserver hrouter hphase server.stage.handle? hattach
    have hself : b.setStage s (.resting server.stage.handle?) = b := by
      rw [← Server.stage_of_not_isBusy hbusy]
      exact setStage_self (mem_of_server? hserver)
    rw [finishStart_of_outcome hstep]
    show Ends b s ((b.setStage s _).say events, _)
    rw [hself]
    exact .denied hserver hbusy hrouter hphase hattach
  | ok e =>
    obtain ⟨hfree, he⟩ := Engine.attach_eq_ok hattach
    have hfailing' : b.engine.failing = e.failing := by rw [he]; rfl
    rw [finishStart_of_none (stepStart_attaching hserver hattach)]
    cases hfailing : e.failing with
    | some failure =>
      obtain ⟨call, hfailed⟩ := stepStart_failed hserver router hfailing
      obtain ⟨events, habandoned⟩ := stepStart_abandoned hserver hrouter hphase
        ({ e with lastError := failure }.record call)
      obtain ⟨⟨calls, hleft⟩, hexcuse⟩ := takeError_failed hattach failure call
      rw [finishStart_of_none hfailed, finishStart_of_outcome habandoned, hleft, hexcuse]
      exact .failed hserver hbusy hrouter hphase hfree (hfailing'.trans hfailing)
    | none =>
      obtain ⟨e', handle, events, hlaunched, hattached, herror⟩ :=
        stepStart_launched hserver hrouter hfailing
      rw [finishStart_of_outcome hlaunched]
      refine .started hserver hbusy hrouter hphase hfree (hfailing'.trans hfailing) ?_ ?_
      · rw [hattached, he]
        rfl
      · rw [herror, he]
        rfl

end Bridge
end RequestBridge
