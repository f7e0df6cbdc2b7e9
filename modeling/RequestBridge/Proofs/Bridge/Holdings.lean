import RequestBridge.Proofs.Bridge.Dealings

/-! The holdings of a bridge: all that is managed on it.

What is managed never touches the requests, and requests never touch what is managed: whatever
becomes of them leaves the routers, the servers and all that the engine knows of these as they
are (`tends_apply`). So what is said of routers and servers has to be proved for the operations
on them only. -/
namespace RequestBridge

namespace Engine

/-- The calls that are not about requests, the latest first. -/
def business (e : Engine) : List Call := e.journal.filter (!·.isDealing)

/-- What an engine has to do with tables, routes and servers. -/
structure Holdings where
  profile : Profile
  known : List KnownRoute
  tables : List Address
  servers : List (Address × UInt16)
  attached : Option ServerId
  lastError : Option Bytes
  failing : Option (Option Bytes)
  refusing : Int
  exhausted : Bool
  business : List Call

def holdings (e : Engine) : Holdings where
  profile := e.profile
  known := e.known
  tables := e.tables
  servers := e.servers
  attached := e.attached
  lastError := e.lastError
  failing := e.failing
  refusing := e.refusing
  exhausted := e.exhausted
  business := e.business

theorem holdings_noted {calls : List Call} (h : calls.filter Call.isDealing = calls) (e : Engine) :
    (e.noted calls).holdings = e.holdings := by
  have hbusiness : (e.noted calls).business = e.business := by
    have hnone : calls.filter (!·.isDealing) = [] := by
      rw [← h, List.filter_filter]
      refine List.filter_eq_nil_iff.mpr ?_
      intro call _
      simp
    unfold business noted
    rw [List.filter_append, hnone]
    rfl
  unfold holdings
  rw [hbusiness]
  rfl

theorem holdings_equip (e : Engine) (withContext withFlag cancelled : Bool) :
    (e.equip withContext withFlag cancelled).1.holdings = e.holdings := by
  rw [equip_eq]
  rfl

theorem isDealing_asking (flag : Option Address) :
    (asking flag).filter Call.isDealing = asking flag := by
  cases flag <;> rfl

end Engine

namespace Bridge

/-- A bridge after something that is not about routers and servers. -/
structure Tends (b b' : Bridge) : Prop where
  engine : b'.engine.holdings = b.engine.holdings
  routers : b'.routers = b.routers
  servers : b'.servers = b.servers

variable {b b' b'' : Bridge}

namespace Tends

theorem refl (b : Bridge) : Tends b b := ⟨rfl, rfl, rfl⟩

theorem trans (h : Tends b b') (h' : Tends b' b'') : Tends b b'' :=
  ⟨h'.engine.trans h.engine, h'.routers.trans h.routers, h'.servers.trans h.servers⟩

theorem attached (h : Tends b b') : b'.engine.attached = b.engine.attached :=
  congrArg Engine.Holdings.attached h.engine

/-- A request that departs. -/
theorem of_departure {d : Departure} {others : List Address}
    (h : b'.engine = b.engine.noted (d.calls others)) (hrouters : b'.routers = b.routers)
    (hservers : b'.servers = b.servers) : Tends b b' :=
  ⟨by rw [h, Engine.holdings_noted (d.isDealing_calls others)], hrouters, hservers⟩

end Tends

/-! ### Tasks -/

theorem tends_discard (b : Bridge) (t : Task) : Tends b (b.discard t) :=
  .of_departure (b.discard_engine t) rfl rfl

theorem tends_discards (ts : List Task) (b : Bridge) : Tends b (ts.foldl discard b) := by
  induction ts generalizing b with
  | nil => exact .refl b
  | cons t rest ih => exact (b.tends_discard t).trans (ih _)

theorem tends_advance (ho : b.Orderly) (id : TaskId) : Tends b (b.advance id) := by
  rcases b.advance_cases id with hself | ⟨t, result, hfind, hbegun, hend⟩ | ⟨t, hfind, hgoes⟩
  · rw [hself]
    exact .refl b
  · rw [advance_finish hfind hbegun hend]
    exact .of_departure (b.finish_engine t result) rfl rfl
  · have hstep := advance_proceeds ho.distinct hfind hgoes
    refine ⟨?_, hstep.routers, hstep.servers⟩
    rcases hstep.engine with hsame | ⟨f, _, hasked⟩
    · rw [hsame]
    · rw [hasked]
      exact Engine.holdings_noted (Engine.isDealing_asking (some f)) b.engine

theorem Goes.tends (h : b.Goes b') (ho : b.Orderly) : Tends b b' := by
  obtain ⟨ids, rfl⟩ := h
  induction ids generalizing b with
  | nil => exact .refl b
  | cons id rest ih => exact (tends_advance ho id).trans (ih ((b.leads_advance id).orderly ho))

/-! ### Requests that are handed over -/

theorem tends_receive (b : Bridge) (attached : Option ServerId) (call : Inbound) :
    Tends b (b.receive attached call) := by
  obtain ⟨events, heq⟩ := b.receive_eq attached call
  rw [heq]
  cases b.admission attached call with
  | error reason => exact .of_departure (reject_engine _ call reason) rfl rfl
  | ok act =>
    have hqueued : Tends b (b.enqueue call act) := ⟨rfl, rfl, rfl⟩
    dsimp only
    rw [spawn_eq]
    split
    · exact hqueued.trans (tends_discard _ _)
    · exact hqueued

theorem tends_handOver (b : Bridge) (attached : Option ServerId)
    (withContext withFlag cancelled : Bool) (route : UInt16) (frame : Option Bytes) :
    Tends b (b.handOver attached withContext withFlag cancelled route frame).1 := by
  have hequip : Tends b { b with engine := (b.engine.equip withContext withFlag cancelled).1 } :=
    ⟨b.engine.holdings_equip withContext withFlag cancelled, rfl, rfl⟩
  exact hequip.trans (tends_receive _ attached _)

theorem tends_sendFrame (b : Bridge) (route : UInt16) (frame : Bytes) (cancelled : Bool) :
    Tends b (((b.sendFrame route frame cancelled).map (·.1)).toOption.getD b) := by
  rw [sendFrame_eq]
  cases b.engine.attached with
  | none => exact .refl b
  | some s => exact b.tends_handOver (some s) true true cancelled route (some frame)

/-- Requests never touch what is managed. -/
theorem tends_apply (ho : b.Orderly) (m : Move) (hm : m.isManagement = false) :
    Tends b (b.apply m) := by
  cases m with
  | handOver attached withContext withFlag cancelled route frame =>
    exact b.tends_handOver attached withContext withFlag cancelled route frame
  | sendFrame route frame cancelled => exact b.tends_sendFrame route frame cancelled
  | sendRequest o =>
    dsimp only [apply, sendRequest]
    cases o.route <|> b.engine.resolve .get o.path with
    | none => exact .refl b
    | some route => exact b.tends_sendFrame route o.frame o.cancelled
  | cancel flag => exact ⟨rfl, rfl, rfl⟩
  | advance id => exact tends_advance ho id
  | drive => exact b.goes_drive.tends ho
  | openGate gate => exact ⟨rfl, rfl, rfl⟩
  | halt =>
    have hclosed : Tends b { b with halted := true } := ⟨rfl, rfl, rfl⟩
    exact hclosed.trans (tends_discards _ _)
  | askCopy flag =>
    dsimp only [apply, askCopy]
    split
    · rw [Engine.ask_eq]
      exact ⟨Engine.holdings_noted (Engine.isDealing_asking (some flag)) b.engine, rfl, rfl⟩
    · exact .refl b
  | dropCopy flag =>
    dsimp only [apply, dropCopy]
    split
    · rw [Engine.letGo_eq]
      exact ⟨Engine.holdings_noted (Engine.isDealing_freeing _ _) b.engine, rfl, rfl⟩
    · exact .refl b
  | _ => cases hm

end Bridge
end RequestBridge
