import RequestBridge.Proofs.Bridge.Routine

/-! The turns of servers.

A start and a stop are made of turns, and the turns of several servers come in any order. What a
turn can do is said here once (`Turn`): which call it makes to the engine, what it asks of its
router, and to which stage the server comes. Every move is made of turns of one server, is routine,
or is a change of phase by hand (`apply_cases`). So what is said of phases, of stages and of the
place at the engine has to be proved for the turns only. -/
namespace RequestBridge.Bridge
variable {b b' b'' : Bridge} {s : ServerId}

/-! ### Routers and servers in the middle of something -/

/-- A router that is put in its own place changes nothing. -/
theorem setRouter_self {r : RouterId} {router : Router} (h : b.router? r = some router) :
    b.setRouter r router = b := by
  obtain ⟨mounted, hmounted, rfl⟩ := mounted_of_router? h
  unfold setRouter
  rw [modify_eq_self]
  intro x hx
  rw [Option.some.inj (hx.symm.trans hmounted)]

theorem isOwned_setStage (b : Bridge) (s : ServerId) (stage : Stage) (r : RouterId) :
    (b.setStage s stage).isOwned r = b.isOwned r := by
  have hsame : ∀ p : Server → Bool, (∀ server, p { server with stage } = p server) →
      (b.servers.modify s fun server => { server with stage }).any p = b.servers.any p := by
    intro p hp
    generalize b.servers = servers
    induction servers generalizing s with
    | nil => cases s <;> rfl
    | cons server rest ih =>
      cases s with
      | zero => simp [hp]
      | succ s => simp [ih s]
  unfold isOwned
  congr 1
  exact hsame _ fun _ => rfl

theorem router?_setStage (b : Bridge) (s : ServerId) (stage : Stage) (r : RouterId) :
    (b.setStage s stage).router? r = b.router? r := by
  unfold router?
  rw [isOwned_setStage]
  rfl

theorem isOwned_of_server? {server : Server} (h : b.server? s = some server) :
    b.isOwned server.router = true := by
  obtain ⟨hserver, hkept⟩ := Option.filter_eq_some_iff.mp h
  unfold isOwned
  refine Bool.or_eq_true_iff.mpr (.inr (List.any_eq_true.mpr ?_))
  exact ⟨server, List.mem_of_getElem? hserver, by simpa using hkept⟩

theorem server?_setStage {server : Server} (h : b.server? s = some server) (stage : Stage) :
    (b.setStage s stage).server? s = some { server with stage } := by
  obtain ⟨hserver, hkept⟩ := Option.filter_eq_some_iff.mp h
  unfold server?
  rw [getElem?_setStage, if_pos rfl, hserver]
  exact Option.filter_eq_some_iff.mpr ⟨rfl, hkept⟩

theorem changePhase_cases (b : Bridge) (r : RouterId) (t : Transition) :
    (∃ misuse, b.changePhase r t = .error misuse ∧ ∀ router, b.router? r = some router →
      router.phase ≠ t.source ∧ misuse = .wrongPhase t router.phase) ∨
    ∃ router, b.router? r = some router ∧ router.phase = t.source ∧
      b.changePhase r t = .ok (b.setRouter r (router.after t)) := by
  unfold changePhase
  cases hrouter : b.router? r with
  | none => exact .inl ⟨_, rfl, fun _ h => nomatch h⟩
  | some router =>
    dsimp only
    by_cases hphase : router.phase = t.source
    · rw [Router.change_of_source hphase]
      exact .inr ⟨router, rfl, hphase, rfl⟩
    · rw [Router.change_of_ne_source hphase]
      refine .inl ⟨_, rfl, ?_⟩
      rintro _ ⟨⟩
      exact ⟨hphase, rfl⟩

theorem changePhase_eq {r : RouterId} {router : Router} {t : Transition}
    (hrouter : b.router? r = some router) (hphase : router.phase = t.source) :
    b.changePhase r t = .ok (b.setRouter r (router.after t)) := by
  unfold changePhase
  rw [hrouter]
  dsimp only
  rw [Router.change_of_source hphase]
  rfl

theorem servers_apply_changePhase (b : Bridge) (r : RouterId) (t : Transition) :
    (b.apply (.changePhase r t)).servers = b.servers := by
  dsimp only [apply]
  rcases b.changePhase_cases r t with ⟨misuse, h, _⟩ | ⟨router, _, _, h⟩ <;> rw [h] <;> rfl

theorem engine_apply_changePhase (b : Bridge) (r : RouterId) (t : Transition) :
    (b.apply (.changePhase r t)).engine = b.engine := by
  dsimp only [apply]
  rcases b.changePhase_cases r t with ⟨misuse, h, _⟩ | ⟨router, _, _, h⟩ <;> rw [h] <;> rfl

/-! ### Turns -/

/-- A turn of a server: what it asks of the engine and of its router, and the stage that it comes
to. A change of phase that is asked for is not always granted. -/
inductive Turn (s : ServerId) (b : Bridge) : Bridge → Prop
  | rests : Turn s b b
  | begins {server router} (hserver : b.server? s = some server) (hbusy : server.isBusy = false)
      (hrouter : b.router? server.router = some router) (hphase : router.phase = .building) :
      Turn s b
        ((b.setRouter server.router (router.after .begin)).setStage s
          (.attaching server.stage.handle?))
  | denied {server handle} (hserver : b.server? s = some server)
      (hstage : server.stage = .attaching handle) (hheld : b.engine.attached.isSome = true) :
      Turn s b ((b.setStage s (.resting handle)).apply (.changePhase server.router .rollback))
  | attaches {server handle e} (hserver : b.server? s = some server)
      (hstage : server.stage = .attaching handle) (hattach : b.engine.attach s = .ok e) :
      Turn s b ({ b with engine := e }.setStage s .launching)
  | fails {server table e} (hserver : b.server? s = some server)
      (hstage : server.stage = .launching)
      (hstart : b.engine.startServer server.port table = (e, none)) :
      Turn s b ({ b with engine := e }.setStage s .abandoning)
  | starts {server table e handle} (hserver : b.server? s = some server)
      (hstage : server.stage = .launching)
      (hstart : b.engine.startServer server.port table = (e, some handle)) :
      Turn s b (({ b with engine := e }.setStage s (.running handle)).apply
        (.changePhase server.router .commit))
  | abandons {server x} (hserver : b.server? s = some server) (hstage : server.stage = .abandoning)
      (hback : ({ b with engine := b.engine.detach }.setStage s .idle).changePhase server.router
        .rollback = .ok x) :
      Turn s b { x with engine := x.engine.takeError.1 }
  | strands {server misuse} (hserver : b.server? s = some server)
      (hstage : server.stage = .abandoning)
      (hback : ({ b with engine := b.engine.detach }.setStage s .idle).changePhase server.router
        .rollback = .error misuse) :
      Turn s b ({ b with engine := b.engine.detach }.setStage s .idle)
  | stops {server handle} (hserver : b.server? s = some server)
      (hstage : server.stage = .running handle) :
      Turn s b ({ b with engine := b.engine.stopServer handle }.setStage s .detaching)
  | detaches {server} (hserver : b.server? s = some server) (hstage : server.stage = .detaching) :
      Turn s b ({ b with engine := b.engine.detach }.setStage s .idle)

theorem turn_beginStart (b : Bridge) (s : ServerId) : Turn s b (b.beginStart s).bridge := by
  unfold beginStart
  split
  · exact .rests
  next server hserver =>
  split
  · exact .rests
  next hbusy =>
  rcases b.changePhase_cases server.router .begin with ⟨misuse, h, _⟩ | ⟨router, hrouter, hphase, h⟩
  · rw [h]
    exact .rests
  · rw [h]
    exact .begins hserver (Bool.eq_false_iff.mpr hbusy) hrouter hphase

theorem turn_stepStart (b : Bridge) (s : ServerId) :
    ∃ x, Turn s b x ∧ Tends x (b.stepStart s).bridge := by
  unfold stepStart
  split
  · exact ⟨b, .rests, .refl b⟩
  next server hserver =>
  split
  · next handle hstage =>
    split
    · next message hattach =>
      refine ⟨_, .denied hserver hstage (Engine.attach_eq_error hattach).1, ?_⟩
      unfold failStart
      rw [hstage]
      dsimp only [Stage.handle?, apply]
      split
      · next misuse hback =>
        rw [hback]
        exact .refl _
      · next x hback =>
        rw [hback]
        exact ⟨rfl, rfl, rfl⟩
    · next e hattach => exact ⟨_, .attaches hserver hstage hattach, .refl _⟩
  · next hstage =>
    dsimp only
    split
    · next e hstart => exact ⟨_, .fails hserver hstage hstart, .refl _⟩
    · next e handle hstart =>
      refine ⟨_, .starts hserver hstage hstart, ?_⟩
      dsimp only [apply]
      split
      · next misuse hcommit =>
        rw [hcommit]
        exact .refl _
      · next x hcommit =>
        rw [hcommit]
        exact ⟨rfl, rfl, rfl⟩
  · next hstage =>
    unfold failStart
    rw [hstage]
    dsimp only [Stage.handle?, Stage.resting]
    split
    · next misuse hback => exact ⟨_, .strands hserver hstage hback, .refl _⟩
    · next x hback => exact ⟨_, .abandons hserver hstage hback, ⟨rfl, rfl, rfl⟩⟩
  · exact ⟨b, .rests, .refl b⟩

theorem turn_stepStop (b : Bridge) (s : ServerId) : ∃ x, Turn s b x ∧ Tends x (b.stepStop s) := by
  unfold stepStop
  split
  · exact ⟨b, .rests, .refl b⟩
  next server hserver =>
  split
  · next handle hstage => exact ⟨_, .stops hserver hstage, .refl _⟩
  · next hstage => exact ⟨_, .detaches hserver hstage, ⟨rfl, rfl, rfl⟩⟩
  · exact ⟨b, .rests, .refl b⟩

/-! ### Moves that are made of turns -/

/-- Turns of a server one after another, and routine between them. -/
inductive Spell (s : ServerId) : Bridge → Bridge → Prop
  | refl (b : Bridge) : Spell s b b
  | turn {b x b' : Bridge} : Turn s b x → Spell s x b' → Spell s b b'
  | routine {b x b' : Bridge} : Routine b x → Spell s x b' → Spell s b b'

namespace Spell

theorem trans (h : Spell s b b') (h' : Spell s b' b'') : Spell s b b'' := by
  induction h with
  | refl => exact h'
  | turn hturn _ ih => exact .turn hturn (ih h')
  | routine hroutine _ ih => exact .routine hroutine (ih h')

theorem of_turn (h : ∃ x, Turn s b x ∧ Tends x b') : Spell s b b' := by
  obtain ⟨x, hturn, htends⟩ := h
  exact .turn hturn (.routine (.of_tends htends) (.refl b'))

end Spell

theorem spell_beginStart (b : Bridge) (s : ServerId) : Spell s b (b.beginStart s).bridge :=
  .turn (b.turn_beginStart s) (.refl _)

theorem spell_finishStart (b : Bridge) (s : ServerId) (steps : Nat) :
    Spell s b (b.finishStart s steps).1 := by
  induction steps generalizing b with
  | zero => exact .refl b
  | succ n ih =>
    have hstep := Spell.of_turn (b.turn_stepStart s)
    unfold finishStart
    split
    · next x outcome hx =>
      rw [hx] at hstep
      exact hstep
    · next x hx =>
      rw [hx] at hstep
      exact hstep.trans (ih x)

theorem spell_start (b : Bridge) (s : ServerId) : Spell s b (b.start s).1 := by
  have hbegin := b.spell_beginStart s
  unfold start
  split
  · next x outcome hx =>
    rw [hx] at hbegin
    exact hbegin
  · next x hx =>
    rw [hx] at hbegin
    exact hbegin.trans (x.spell_finishStart s 3)

theorem spell_stop (b : Bridge) (s : ServerId) : Spell s b (b.stop s) :=
  (Spell.of_turn (b.turn_stepStop s)).trans (.of_turn (turn_stepStop _ s))

theorem spell_dropServer (b : Bridge) (s : ServerId) : Spell s b (b.dropServer s) := by
  unfold dropServer
  split
  · exact .refl b
  · split
    · exact .refl b
    · exact (b.spell_stop s).trans
        (.routine ((routine_dropped _ s).trans (routine_freeIfUnowned _ _)) (.refl _))

theorem spell_apply (b : Bridge) {m : Move} (hm : m.actor? = some s) : Spell s b (b.apply m) := by
  cases m <;> cases hm
  · exact b.spell_beginStart s
  · exact .of_turn (b.turn_stepStart s)
  · exact .of_turn (b.turn_stepStop s)
  · exact b.spell_start s
  · exact b.spell_stop s
  · exact b.spell_dropServer s

/-- Every move is made of turns of one server, is routine, or is a change of phase by hand. -/
theorem apply_cases (ho : b.Orderly) (m : Move) :
    (∃ s, m.actor? = some s ∧ Spell s b (b.apply m)) ∨
      (m.actor? = none ∧ Routine b (b.apply m)) ∨ ∃ r t, m = .changePhase r t := by
  cases hactor : m.actor? with
  | some s => exact .inl ⟨s, rfl, b.spell_apply hactor⟩
  | none =>
    cases hroutine : m.isRoutine with
    | true => exact .inr (.inl ⟨rfl, routine_apply ho hroutine⟩)
    | false =>
      cases m with
      | changePhase r t => exact .inr (.inr ⟨r, t, rfl⟩)
      | _ => first | exact absurd hroutine.symm Bool.false_ne_true | cases hactor

end RequestBridge.Bridge
