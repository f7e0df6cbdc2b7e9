import RequestBridge.Proofs.Bridge.Lifecycle
import RequestBridge.Proofs.Bridge.Starts

/-! Starts that no one meddles with.

The phase of a router may also be changed by hand, at any time. A router that is taken back by hand
in the middle of a start is no more in the phase that the start has put it into, and its server may
come to run all the same, on a router that is being built. Where this is not done, the phase of a
router fits the stages of its servers (`Calm`): a server starts only while its router has left the
first phase, with no other server of the router starting or running beside it, and it runs only on a
router that is started. -/
namespace RequestBridge

namespace Server
variable {x y : Server} {phase : Option Phase}

theorem Lasts.router (h : Lasts x y) : y.router = x.router := (congrArg Server.router h :)

theorem isStarting_congr (h : y.stage = x.stage) : y.isStarting = x.isStarting := by
  unfold isStarting
  rw [h]

theorem isRunning_congr (h : y.stage = x.stage) : y.isRunning = x.isRunning := by
  unfold isRunning
  rw [h]

theorem isStarting_of_stage {stage : Stage} (h : x.stage = stage)
    (hstage : ({ x with stage } : Server).isStarting = true) : x.isStarting = true :=
  (isStarting_congr h).trans hstage

/-- Whether a server starts or runs. -/
def isEngaged (x : Server) : Bool := x.isStarting || x.isRunning

theorem isEngaged_congr (h : y.stage = x.stage) : y.isEngaged = x.isEngaged := by
  unfold isEngaged
  rw [isStarting_congr h, isRunning_congr h]

theorem isEngaged_of_isStarting (h : x.isStarting = true) : x.isEngaged = true :=
  Bool.or_eq_true_iff.mpr (.inl h)

/-- The stage of a server fits the phase of its router. -/
structure Fits (phase : Option Phase) (x : Server) : Prop where
  away : x.isEngaged = true → phase = some .starting ∨ phase = some .started
  started : x.isRunning = true → phase = some .started
  fresh : x.isStarting = true → x.isRunning = false

theorem Fits.congr (h : x.Fits phase) (hstage : y.stage = x.stage) : y.Fits phase := by
  refine ⟨?_, ?_, ?_⟩
  · rw [isEngaged_congr hstage]
    exact h.away
  · rw [isRunning_congr hstage]
    exact h.started
  · rw [isStarting_congr hstage, isRunning_congr hstage]
    exact h.fresh

theorem fits_of_not_isStarting (h : x.isStarting = false)
    (hruns : x.isRunning = true → phase = some .started) : x.Fits phase where
  away hengaged := .inr (hruns ((Bool.or_eq_true_iff.mp hengaged).resolve_left (by simp [h])))
  started := hruns
  fresh hstarts := nomatch h.symm.trans hstarts

theorem fits_of_not_isRunning (h : x.isRunning = false)
    (haway : phase = some .starting ∨ phase = some .started) : x.Fits phase where
  away _ := haway
  started hruns := nomatch h.symm.trans hruns
  fresh _ := h

theorem fits_of_not_isEngaged (h : x.isEngaged = false) : x.Fits phase := by
  obtain ⟨hstarts, hruns⟩ := Bool.or_eq_false_iff.mp h
  exact fits_of_not_isStarting hstarts fun hrunning => nomatch hruns.symm.trans hrunning

end Server

namespace Bridge
variable {b x : Bridge} {s : ServerId} {r : RouterId} {server : Server}

def phaseOf (b : Bridge) (r : RouterId) : Option Phase := b.routers[r]?.map (·.router.phase)

/-- Of the servers of a router none but `s` starts or runs. -/
def Lone (b : Bridge) (s : ServerId) (r : RouterId) : Prop :=
  ∀ (i : ServerId) (other : Server), i ≠ s → b.servers[i]? = some other → other.router = r →
    other.isEngaged = false

/-- The phase of a router fits the stages of its servers, and while one of them starts no other is
engaged. -/
structure Calm (b : Bridge) (r : RouterId) : Prop where
  fits : ∀ {s : ServerId} {server}, b.servers[s]? = some server → server.router = r →
    server.Fits (b.phaseOf r)
  alone : ∀ {s : ServerId} {server}, b.servers[s]? = some server → server.router = r →
    server.isStarting = true → b.Lone s r

/-- Whether a move takes the router `r` back by hand while a server of it starts. -/
def meddles (b : Bridge) (r : RouterId) : Move → Bool
  | .changePhase r' .rollback =>
    r' == r && b.servers.any fun server => server.isStarting && server.router == r
  | _ => false

/-- A history in which no one meddles with a start on the router `r`. -/
def Unmeddled (b : Bridge) (r : RouterId) : List Move → Prop
  | [] => True
  | m :: rest => b.meddles r m = false ∧ (b.apply m).Unmeddled r rest

/-! ### Phases -/

theorem phaseOf_of_router? {router : Router} (h : b.router? r = some router) :
    b.phaseOf r = some router.phase := by
  obtain ⟨mounted, hmounted, rfl⟩ := mounted_of_router? h
  unfold phaseOf
  rw [hmounted]
  rfl

theorem phaseOf_setRouter {old : Router} (h : b.router? r = some old) (router : Router)
    (i : RouterId) :
    (b.setRouter r router).phaseOf i = if i = r then some router.phase else b.phaseOf i := by
  obtain ⟨mounted, hmounted, -⟩ := mounted_of_router? h
  unfold phaseOf
  rw [getElem?_setRouter hmounted]
  split <;> rfl

/-- A change of phase is refused, or it sets out from the right phase and is granted. -/
theorem phaseOf_changePhase (b : Bridge) (r : RouterId) (t : Transition) (i : RouterId) :
    ((b.apply (.changePhase r t)).phaseOf i = b.phaseOf i ∧
      (b.isOwned r = true → b.phaseOf r ≠ some t.source)) ∨
    (b.phaseOf r = some t.source ∧
      (b.apply (.changePhase r t)).phaseOf i = if i = r then some t.target else b.phaseOf i) := by
  dsimp only [apply]
  rcases b.changePhase_cases r t with ⟨misuse, hrefused, hwhy⟩ | ⟨router, hrouter, hphase, hchanged⟩
  · rw [hrefused]
    refine .inl ⟨rfl, ?_⟩
    intro howned hsource
    obtain ⟨mounted, hmounted, hphase⟩ := Option.map_eq_some_iff.mp hsource
    refine (hwhy mounted.router ?_).1 hphase
    unfold router?
    rw [if_pos howned, hmounted]
    rfl
  · rw [hchanged]
    exact .inr ⟨(phaseOf_of_router? hrouter).trans (congrArg some hphase),
      phaseOf_setRouter hrouter (router.after t) i⟩

theorem phaseOf_routine (h : Routine b x) {phase : Phase} (hphase : b.phaseOf r = some phase) :
    x.phaseOf r = some phase := by
  obtain ⟨mounted, hmounted, rfl⟩ := Option.map_eq_some_iff.mp hphase
  obtain ⟨mounted', hmounted', hgrows⟩ := h.routers.old hmounted
  unfold phaseOf
  rw [hmounted']
  rcases hgrows with hsame | ⟨hbuilding, hbuilding', _⟩
  · exact congrArg (fun router => some router.phase) hsame
  · exact congrArg some (hbuilding'.trans hbuilding.symm)

/-! ### What keeps the calm -/

namespace Calm

theorem routine (h : b.Calm r) (hroutine : Routine b x) : x.Calm r := by
  -- whoever is engaged afterwards was there before, at the same stage
  have hback : ∀ {i : ServerId} {y : Server}, x.servers[i]? = some y → y.isEngaged = true →
      ∃ old, b.servers[i]? = some old ∧ y.router = old.router ∧ y.stage = old.stage := by
    intro i y hy hengaged
    rcases hroutine.servers.new hy with ⟨old, hold, hlasts⟩ | hidle
    · exact ⟨old, hold, hlasts.router, hlasts.stage⟩
    · have hnot : y.isEngaged = false := by
        unfold Server.isEngaged Server.isStarting Server.isRunning
        rw [hidle]
        rfl
      cases hnot.symm.trans hengaged
  refine ⟨?_, ?_⟩
  · intro i y hy hr
    cases hengaged : y.isEngaged with
    | false => exact Server.fits_of_not_isEngaged hengaged
    | true =>
      obtain ⟨old, hold, hrouter, hstage⟩ := hback hy hengaged
      have hfits := h.fits hold (hrouter.symm.trans hr)
      have hnow : old.Fits (x.phaseOf r) :=
        ⟨fun he => (hfits.away he).imp (phaseOf_routine hroutine) (phaseOf_routine hroutine),
          fun hruns => phaseOf_routine hroutine (hfits.started hruns), hfits.fresh⟩
      exact hnow.congr hstage
  · intro i y hy hr hstarts i' y' hi hy' hr'
    refine Bool.eq_false_iff.mpr ?_
    intro hengaged
    obtain ⟨old, hold, hrouter, hstage⟩ := hback hy (Server.isEngaged_of_isStarting hstarts)
    obtain ⟨old', hold', hrouter', hstage'⟩ := hback hy' hengaged
    have hstarts' := (Server.isStarting_congr hstage).symm.trans hstarts
    have hlone := h.alone hold (hrouter.symm.trans hr) hstarts' i' old' hi hold'
      (hrouter'.symm.trans hr')
    cases hlone.symm.trans ((Server.isEngaged_congr hstage').symm.trans hengaged)

/-- A server that comes to another stage, while the phase of its router stays or no other server
of the router is engaged. -/
theorem turn (h : b.Calm r) (hserver : b.servers[s]? = some server) {stage : Stage}
    (hservers : x.servers = (b.setStage s stage).servers)
    (hphase : x.phaseOf r = b.phaseOf r ∨ (server.router = r ∧ b.Lone s r))
    (hfits : server.router = r → Server.Fits (x.phaseOf r) { server with stage })
    (hlone : server.router = r → ({ server with stage } : Server).isEngaged = true →
      b.Lone s r) : x.Calm r := by
  have hback : ∀ {i : ServerId} {y : Server}, x.servers[i]? = some y →
      (i = s ∧ y = { server with stage }) ∨ (i ≠ s ∧ b.servers[i]? = some y) := by
    intro i y hy
    rw [hservers, getElem?_setStage] at hy
    split at hy
    · next hi =>
      subst hi
      rw [hserver] at hy
      exact .inl ⟨rfl, (Option.some.inj hy).symm⟩
    · next hi => exact .inr ⟨fun h => hi h.symm, hy⟩
  refine ⟨?_, ?_⟩
  · intro i y hy hr
    rcases hback hy with ⟨rfl, rfl⟩ | ⟨hi, hold⟩
    · exact hfits hr
    · rcases hphase with hsame | ⟨_, hlone⟩
      · rw [hsame]
        exact h.fits hold hr
      · exact Server.fits_of_not_isEngaged (hlone i y hi hold hr)
  · intro i y hy hr hstarts i' y' hi hy' hr'
    rcases hback hy with ⟨rfl, rfl⟩ | ⟨his, hold⟩
    · rcases hback hy' with ⟨rfl, -⟩ | ⟨-, hold'⟩
      · exact absurd rfl hi
      · exact hlone hr (Server.isEngaged_of_isStarting hstarts) i' y' hi hold' hr'
    · rcases hback hy' with ⟨rfl, rfl⟩ | ⟨-, hold'⟩
      · -- were it engaged, the other one could not start
        refine Bool.eq_false_iff.mpr ?_
        intro hengaged
        have hidle := hlone hr' hengaged i y his hold hr
        cases hidle.symm.trans (Server.isEngaged_of_isStarting hstarts)
      · exact h.alone hold hr hstarts i' y' hi hold' hr'

theorem not_isEngaged (h : b.Calm r) (hphase : b.phaseOf r = some .building)
    (hserver : b.servers[s]? = some server) (hr : server.router = r) :
    server.isEngaged = false := by
  refine Bool.eq_false_iff.mpr ?_
  intro hengaged
  rcases (h.fits hserver hr).away hengaged with hstarting | hstarted
  · cases hphase.symm.trans hstarting
  · cases hphase.symm.trans hstarted

theorem not_isRunning (h : b.Calm r) (hphase : b.phaseOf r = some .building)
    (hserver : b.servers[s]? = some server) (hr : server.router = r) :
    server.isRunning = false :=
  (Bool.or_eq_false_iff.mp (h.not_isEngaged hphase hserver hr)).2

/-- A server that goes on with its start. -/
theorem goesOn (h : b.Calm r) (hserver : b.server? s = some server)
    (hstarting : server.isStarting = true) {stage : Stage} (hhandle : stage.handle? = none)
    (e : Engine) : ({ b with engine := e }.setStage s stage).Calm r := by
  have hthere := mem_of_server? hserver
  have hruns : ({ server with stage } : Server).isRunning = false := by
    unfold Server.isRunning
    rw [hhandle]
    rfl
  refine h.turn hthere rfl (.inl rfl) ?_ fun hr _ => h.alone hthere hr hstarting
  intro hr
  exact Server.fits_of_not_isRunning hruns
    ((h.fits hthere hr).away (Server.isEngaged_of_isStarting hstarting))

/-- A server whose start ends, and asks for the phase that its router should come to. -/
theorem ends (h : b.Calm r) (hserver : b.server? s = some server)
    (hstarting : server.isStarting = true) (stage : Stage) (t : Transition) (e : Engine)
    (ht : t.source = .starting) (hends : ({ server with stage } : Server).isStarting = false)
    (hruns : server.router = r → ({ server with stage } : Server).isRunning = true →
      t.target = .started) :
    (({ b with engine := e }.setStage s stage).apply (.changePhase server.router t)).Calm r := by
  have hthere := mem_of_server? hserver
  have howned : ({ b with engine := e }.setStage s stage).isOwned server.router = true :=
    (isOwned_setStage _ s stage _).trans (isOwned_of_server? hserver)
  have hphases := phaseOf_changePhase ({ b with engine := e }.setStage s stage) server.router t r
  refine h.turn hthere (servers_apply_changePhase _ _ _) ?_ ?_
    fun hr _ => h.alone hthere hr hstarting
  · by_cases hr : server.router = r
    · exact .inr ⟨hr, h.alone hthere hr hstarting⟩
    · rcases hphases with ⟨hsame, -⟩ | ⟨-, hchanged⟩
      · exact .inl hsame
      · exact .inl (hchanged.trans (if_neg fun h => hr h.symm))
  · rintro rfl
    refine Server.fits_of_not_isStarting hends ?_
    intro hrunning
    rcases hphases with ⟨hsame, hrefused⟩ | ⟨-, hchanged⟩
    · -- refused, since the router has been started by hand
      rw [ht] at hrefused
      have haway := (h.fits hthere rfl).away (Server.isEngaged_of_isStarting hstarting)
      exact hsame.trans (haway.resolve_left (hrefused howned))
    · rw [hchanged, if_pos rfl, hruns rfl hrunning]

/-- A server that neither starts nor runs any more. -/
theorem rests (h : b.Calm r) (hserver : b.server? s = some server) {stage : Stage}
    (hstage : ({ server with stage } : Server).isEngaged = false) (e : Engine) :
    ({ b with engine := e }.setStage s stage).Calm r :=
  h.turn (mem_of_server? hserver) rfl (.inl rfl) (fun _ => Server.fits_of_not_isEngaged hstage)
    fun _ hengaged => nomatch hstage.symm.trans hengaged

end Calm

theorem Turn.calm (h : Turn s b x) (hcalm : b.Calm r) : x.Calm r := by
  cases h with
  | rests => exact hcalm
  | @begins server router hserver hbusy hrouter hphase =>
    have hbuilding : b.phaseOf server.router = some .building := by
      rw [phaseOf_of_router? hrouter, hphase]
    have hthere := mem_of_server? hserver
    have hlone : server.router = r → b.Lone s r := by
      rintro rfl i other - hother hr
      exact hcalm.not_isEngaged hbuilding hother hr
    have hphases := phaseOf_setRouter hrouter (router.after .begin) r
    refine hcalm.turn hthere rfl ?_ ?_ fun hr _ => hlone hr
    · by_cases hr : server.router = r
      · exact .inr ⟨hr, hlone hr⟩
      · exact .inl (hphases.trans (if_neg fun h => hr h.symm))
    · rintro rfl
      have hruns := hcalm.not_isRunning hbuilding hthere rfl
      exact Server.fits_of_not_isRunning hruns (.inl (hphases.trans (if_pos rfl)))
  | @denied server handle hserver hstage =>
    have hstarting := Server.isStarting_of_stage hstage rfl
    refine hcalm.ends hserver hstarting (.resting handle) .rollback b.engine rfl ?_ ?_
    · cases handle <;> rfl
    · -- a server that runs does not begin another start
      intro hr hrunning
      have hruns := (hcalm.fits (mem_of_server? hserver) hr).fresh hstarting
      unfold Server.isRunning at hruns
      rw [hstage] at hruns
      cases handle with
      | none => cases hrunning
      | some handle => cases hruns
  | @attaches server handle e hserver hstage =>
    exact hcalm.goesOn hserver (Server.isStarting_of_stage hstage rfl) rfl e
  | @fails server table e hserver hstage =>
    exact hcalm.goesOn hserver (Server.isStarting_of_stage hstage rfl) rfl e
  | @starts server table e handle hserver hstage hstart =>
    exact hcalm.ends hserver (Server.isStarting_of_stage hstage rfl) (.running handle) .commit e
      rfl rfl fun _ _ => rfl
  | @abandons server x hserver hstage hback =>
    have hends := hcalm.ends hserver (Server.isStarting_of_stage hstage rfl) .idle .rollback
      b.engine.detach rfl rfl fun _ h => nomatch h
    dsimp only [apply] at hends
    rw [hback] at hends
    exact ⟨hends.fits, hends.alone⟩
  | @strands server misuse hserver hstage =>
    exact hcalm.rests hserver rfl b.engine.detach
  | @stops server handle hserver => exact hcalm.rests hserver rfl _
  | detaches hserver => exact hcalm.rests hserver rfl _

/-- Of the changes of phase by hand, only one that takes the router back can disturb a start. -/
theorem Calm.changePhase (h : b.Calm r) {i : RouterId} {t : Transition}
    (hm : b.meddles r (.changePhase i t) = false) : (b.apply (.changePhase i t)).Calm r := by
  have hservers := servers_apply_changePhase b i t
  refine ⟨?_, ?_⟩
  · intro s server hserver hr
    rw [hservers] at hserver
    have hfits := h.fits hserver hr
    rcases phaseOf_changePhase b i t r with ⟨hsame, -⟩ | ⟨hsource, hchanged⟩
    · rw [hsame]
      exact hfits
    · rw [hchanged]
      split
      · next hi =>
        subst hi
        rw [hsource] at hfits
        cases t with
        | begin => exact Server.fits_of_not_isEngaged (h.not_isEngaged hsource hserver hr)
        | commit => exact ⟨fun _ => .inr rfl, fun _ => rfl, hfits.fresh⟩
        | rollback =>
          refine Server.fits_of_not_isStarting (Bool.eq_false_iff.mpr ?_) ?_
          · intro hstarts
            have hany : b.meddles r (.changePhase r .rollback) = true := by
              dsimp only [meddles]
              rw [beq_self_eq_true, Bool.true_and]
              refine List.any_eq_true.mpr ⟨server, List.mem_of_getElem? hserver, ?_⟩
              simp [hstarts, hr]
            cases hm.symm.trans hany
          · intro hruns
            cases hfits.started hruns
      · exact hfits
  · intro s server hserver hr hstarts j other hj hother
    rw [hservers] at hserver hother
    exact h.alone hserver hr hstarts j other hj hother

/-! ### Histories -/

theorem Spell.calm {b' : Bridge} (h : Spell s b b') (hb : b.Calm r) : b'.Calm r := by
  induction h with
  | refl => exact hb
  | turn hturn _ ih => exact ih (hturn.calm hb)
  | routine hroutine _ ih => exact ih (hb.routine hroutine)

theorem calm_apply (ho : b.Orderly) {m : Move} (hm : b.meddles r m = false) (hb : b.Calm r) :
    (b.apply m).Calm r := by
  rcases apply_cases ho m with ⟨s, _, hspell⟩ | ⟨_, hroutine⟩ | ⟨i, t, rfl⟩
  · exact hspell.calm hb
  · exact hb.routine hroutine
  · exact hb.changePhase hm

theorem calm_new (profile : Profile) (r : RouterId) : (Bridge.new profile).Calm r :=
  ⟨fun hserver => (nomatch hserver), fun hserver => (nomatch hserver)⟩

theorem calm_run (ho : b.Orderly) (hb : b.Calm r) {h : List Move} (hh : b.Unmeddled r h) :
    (b.run h).Calm r := by
  induction h generalizing b with
  | nil => exact hb
  | cons m rest ih => exact ih ((leads_apply ho m).orderly ho) (calm_apply ho hh.1 hb) hh.2

end Bridge
end RequestBridge
