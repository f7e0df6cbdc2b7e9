import RequestBridge.Chain.Stages
import RequestBridge.Proofs.Bridge.Standing

/-! The bridge adds nothing to the chains behind it.

A client that sends a request to a running server gets what the chain of the route comes to when
it is run on its own with the same path and body (`bridge_is_transparent`). On the way the request
goes through a frame, a registry, a task and another frame; what is kept along it is that the task
comes to what the whole chain would come to (`Task.OnCourse`, `Course`). -/
namespace RequestBridge

/-- A task on the way through a chain: what is left comes to the same as the whole chain, and to
the same rest with the gates that are open now or any more of them. -/
structure Task.OnCourse (t : Task) (gates : List String) (chain : Act Outcome) : Prop where
  result : (t.act.run false).result = (chain.run false).result
  stop : ∀ later, gates ⊆ later → t.act.stop later false = chain.stop later false

namespace Task.OnCourse
variable {t : Task} {gates : List String} {chain : Act Outcome}

theorem next (h : t.OnCourse gates chain) : (t.next gates false).OnCourse gates chain := by
  obtain ⟨id, route, context, flag, act, begun, waiting⟩ := t
  cases begun with
  | false => exact ⟨h.result, h.stop⟩
  | true =>
    cases act with
    | wait gate rest =>
      by_cases hopen : gate ∈ gates
      · simp only [Task.next, hopen, if_true]
        refine ⟨h.result, ?_⟩
        intro later hlater
        have hstop := h.stop later hlater
        rw [Act.stop, if_pos (hlater hopen)] at hstop
        exact hstop
      · simp only [Task.next, hopen, if_true, if_false]
        exact ⟨h.result, h.stop⟩
    | _ => exact ⟨h.result, h.stop⟩

theorem through (h : t.OnCourse gates chain) (gate : String) :
    (t.through gate).OnCourse (gate :: gates) chain := by
  have hact : (t.through gate).act = t.act := by
    unfold Task.through
    split <;> rfl
  refine ⟨?_, ?_⟩
  · rw [hact, h.result]
  · intro later hlater
    rw [hact]
    exact h.stop later fun g hg => hlater (List.mem_cons_of_mem gate hg)

/-- A task that has come to its end has the result of the whole chain. -/
theorem eq_of_end (h : t.OnCourse gates chain) {result : Except Payload Outcome}
    (hend : t.act.end? = some result) : result = (chain.run false).result := by
  rw [← h.result]
  exact (Act.result_of_ends (Act.stop_of_end hend [] false)).symm

end Task.OnCourse

namespace Bridge
open Occurrence

/-- The terminal action with which a chain is answered on a context. -/
def answering (c : Address) (chain : Act Outcome) : Terminal :=
  .completed c (Frame.encodeResponse (Response.ofResult (chain.run false).result).fitted.1)

/-- A request on its way through its chain, or answered with what the chain comes to. Nothing is
said of it once its peer has given up, or where tasks run no more. -/
inductive Course (c f : Address) (chain : Act Outcome) (b : Bridge) : Prop
  | gone (h : b.engine.isCancelled (some f) = true)
  | halted (h : b.halted = true)
  | running (t : Task) (ht : t ∈ b.tasks) (hc : t.context = some c) (hf : t.flag = some f)
      (hcourse : t.OnCourse b.gates chain)
  | answered (h : answering c chain ∈ b.engine.terminals)

variable {b b' : Bridge} {c f : Address} {chain : Act Outcome}

theorem Happens.halted {os : List Occurrence} (h : Happens b os b') (ho : b.Orderly)
    (hhalted : b.halted = true) : b'.halted = true := by
  cases h with
  | managed h => exact (congrArg Traffic.halted h.traffic).trans hhalted
  | cancel flag => exact hhalted
  | openGate gate => exact hhalted
  | close => rfl
  | askCopy flag =>
    unfold Bridge.askCopy
    split <;> exact hhalted
  | dropCopy flag =>
    unfold Bridge.dropCopy
    split <;> exact hhalted
  | reject events hequip hadmission => exact hhalted
  | enqueue hequip hadmission => exact hhalted
  | proceed hfind hgoes =>
    exact (advance_proceeds ho.distinct hfind hgoes).halted.trans hhalted
  | finish hfind hbegun hend => exact hhalted
  | discard ht hhalted => exact hhalted

/-- A task that is still there, in the same state. -/
theorem Course.stays {t : Task} (ht : t ∈ b'.tasks) (hc : t.context = some c) (hf : t.flag = some f)
    (hcourse : t.OnCourse b.gates chain) (hgates : b'.gates = b.gates) : Course c f chain b' :=
  .running t ht hc hf (hgates ▸ hcourse)

/-- Whatever happens, a request stays on its course. -/
theorem Happens.course {os : List Occurrence} (h : Happens b os b') (ho : b.Orderly)
    (hcourse : Course c f chain b) : Course c f chain b' := by
  cases hcourse with
  | gone hgone =>
    exact .gone (List.contains_iff_mem.mpr (h.cancelled ho (List.contains_iff_mem.mp hgone)))
  | halted hhalted => exact .halted (h.halted ho hhalted)
  | answered hanswered =>
    refine .answered ?_
    rw [h.terminals ho]
    exact List.mem_append_left _ hanswered
  | running t ht hc hf hcourse =>
    cases h with
    | managed h =>
      refine .stays ?_ hc hf hcourse (congrArg Traffic.gates h.traffic)
      rw [show b'.tasks = b.tasks from congrArg Traffic.tasks h.traffic]
      exact ht
    | cancel flag => exact .stays ht hc hf hcourse rfl
    | openGate gate =>
      refine .running (t.through gate) ?_ ?_ ?_ (hcourse.through gate)
      · exact (b.openGate_tasks gate).mem_iff.mpr (List.mem_map.mpr ⟨t, ht, rfl⟩)
      · exact (congrArg (·.2.2.1) (t.ticket_through gate)).trans hc
      · exact (congrArg (·.2.2.2) (t.ticket_through gate)).trans hf
    | close => exact .halted rfl
    | askCopy flag =>
      unfold Bridge.askCopy
      split <;> exact .stays ht hc hf hcourse rfl
    | dropCopy flag =>
      unfold Bridge.dropCopy
      split <;> exact .stays ht hc hf hcourse rfl
    | reject events hequip hadmission => exact .stays ht hc hf hcourse rfl
    | enqueue hequip hadmission => exact .stays (List.mem_append_left _ ht) hc hf hcourse rfl
    | @proceed id u hfind hgoes =>
      have hstep := advance_proceeds ho.distinct hfind hgoes
      have hu := (mem_of_task? hfind).1
      by_cases hid : t.id = u.id
      · obtain rfl := ho.distinct.eq_of_id hu ht hid
        cases hgone : b.engine.isCancelled t.flag with
        | true =>
          rw [hf] at hgone
          exact .gone (List.contains_iff_mem.mpr ((Happens.proceed hfind hgoes).cancelled ho
            (List.contains_iff_mem.mp hgone)))
        | false =>
          have hticket := t.ticket_next b.gates false
          refine .stays ((hstep.mem_tasks ht _).mpr (.inl rfl)) ?_ ?_ ?_ hstep.gates
          · rw [hgone]
            exact (congrArg (·.2.2.1) hticket).trans hc
          · rw [hgone]
            exact (congrArg (·.2.2.2) hticket).trans hf
          · rw [hgone]
            exact hcourse.next
      · exact .stays ((hstep.mem_tasks hu t).mpr (.inr ⟨ht, hid⟩)) hc hf hcourse hstep.gates
    | @finish u result hfind hbegun hend =>
      have hu := (mem_of_task? hfind).1
      by_cases hid : t.id = u.id
      · obtain rfl := ho.distinct.eq_of_id hu ht hid
        cases hgone : b.engine.isCancelled t.flag with
        | true =>
          refine .gone ?_
          rw [finish_engine, ← hf]
          exact hgone
        | false =>
          refine .answered ?_
          rw [finish_terminals, hc, hcourse.eq_of_end hend]
          refine List.mem_append_right _ (List.mem_singleton.mpr ?_)
          unfold Engine.closing
          rw [hgone]
          rfl
      · exact .stays (Task.mem_without.mpr ⟨ht, hid⟩) hc hf hcourse rfl
    | discard hu hhalted => exact .halted hhalted

theorem Unfolds.course {os : List Occurrence} (h : Unfolds b os b') (ho : b.Orderly)
    (hcourse : Course c f chain b) : Course c f chain b' := by
  induction h with
  | refl _ => exact hcourse
  | step hstep _ ih => exact ih (hstep.orderly ho) (hstep.course ho hcourse)

/-! ### From a client to a chain -/

/-- A whole request of a client that fits the frames of a running server and leads to a route of
its router. Besides the limit of the server it is assumed that the path and the body each fit the
four bytes in which a frame tells their lengths, since of anything longer only a part is told. -/
structure Reaches (b : Bridge) (o : Client.Outbound) (server : Server) (mounted : Mounted)
    (route : Route) : Prop where
  there : ∃ s : ServerId, b.servers[s]? = some server
  running : server.isRunning = true
  behind : b.routers[server.router]? = some mounted
  leads : ∃ id, (o.route <|> b.engine.resolve .get o.path) = some id ∧
    mounted.router.registry.route? id = some route
  whole : o.raw = none
  path : (Utf8.encode o.path).length ≤ Frame.maxField
  body : o.body.length ≤ Frame.maxField
  fits : 9 + (Utf8.encode o.path).length + o.body.length ≤ server.limits.maxLength

variable {o : Client.Outbound} {server : Server} {mounted : Mounted} {route : Route}

/-- The frame of such a request is read as the request again, and its chain is found. -/
theorem Reaches.admission (h : b.Reaches o server mounted route) (hseated : b.Seated) :
    ∃ s id, b.engine.attached = some s ∧
      (o.route <|> b.engine.resolve .get o.path) = some id ∧
      ∀ context flag, b.admission (some s) ⟨id, some o.frame, context, flag⟩ =
        .ok ((mounted.router.registry.pipeline route).start ⟨.get, o.path, o.body⟩) := by
  obtain ⟨s, hserver⟩ := h.there
  obtain ⟨id, hid, hroute⟩ := h.leads
  refine ⟨s, id, hseated.attached_of_isRunning hserver h.running, hid, ?_⟩
  intro context flag
  have hframe : o.frame = Frame.encodeRequest ⟨.get, o.path, o.body⟩ := by
    rw [Client.Outbound.frame, h.whole]
    rfl
  have hfits : (Frame.encodeRequest ⟨.get, o.path, o.body⟩ ++ []).length ≤
      server.limits.maxLength := by
    rw [List.append_nil, Frame.length_encodeRequest]
    exact h.fits
  have hdecode := Frame.decodeRequest_encodeRequest server.limits ⟨.get, o.path, o.body⟩ []
    h.path h.body hfits
  rw [List.append_nil] at hdecode
  have hdispatcher : b.dispatcher? s = some ⟨mounted.router.registry, server.limits⟩ := by
    unfold dispatcher?
    rw [hserver]
    show (b.routers[server.router]?).bind _ = _
    rw [h.behind]
    rfl
  unfold Bridge.admission
  rw [Option.bind_some, hdispatcher, hframe]
  unfold Dispatcher.admit
  rw [show Frame.encodeRequest ⟨.get, o.path, o.body⟩ = Method.code .get :: _ from rfl] at hdecode ⊢
  dsimp only
  rw [hdecode]
  dsimp only
  rw [hroute]

/-- A request that is admitted becomes a task, which is discarded at once where tasks run no
more. -/
theorem course_spawn (b : Bridge) {call : Inbound} (hc : call.context = some c)
    (hf : call.flag = some f) : Course c f chain (b.spawn call chain) := by
  rw [spawn_eq]
  split
  · next hhalted => exact .halted hhalted
  · exact .running _ (List.mem_append_right _ (List.mem_singleton.mpr rfl)) hc hf
      ⟨rfl, fun _ _ => rfl⟩

/-- The request sets out on its course. -/
theorem Reaches.course (h : b.Reaches o server mounted route) (hseated : b.Seated) :
    ∃ b₁ pending, b.sendRequest o = .ok (b₁, pending) ∧
      Course pending.context pending.flag
        ((mounted.router.registry.pipeline route).start ⟨.get, o.path, o.body⟩) b₁ := by
  obtain ⟨s, id, hattached, hid, hadmission⟩ := h.admission hseated
  unfold sendRequest
  rw [hid]
  dsimp only
  rw [sendFrame_eq, hattached]
  refine ⟨_, _, rfl, ?_⟩
  dsimp only
  rw [handOver_eq, call_handOver, Engine.equip_eq]
  dsimp only
  generalize (mounted.router.registry.pipeline route).start _ = chain at hadmission ⊢
  rw [receive_of_admitted (hadmission _ _)]
  exact course_spawn _ rfl rfl

/-! ### From a chain to a client -/

/-- A client whose request is answered gets what its chain comes to, from then on. -/
theorem Ledger.answer_of_answered {os os' : List Occurrence} (l : Ledger os b)
    (h : Unfolds b os' b') (hanswered : answering c chain ∈ b.engine.terminals) (millis : Nat) :
    b'.answer millis c =
      .ok (.ofResponse (Response.ofResult (chain.run false).result).fitted.1) := by
  have hterminal : b.engine.terminalOf? c = some (answering c chain) :=
    l.terminalOf?_eq.mpr ⟨hanswered, rfl⟩
  unfold answer
  rw [h.terminalOf?_stays l.orderly hterminal, answering]
  dsimp only
  rw [Response.decode_fitted]
  rfl

/-- A request on its course is answered in a drive, if all gates that its chain comes to are
open. -/
theorem Course.answered_drive (hcourse : Course c f chain b) (ho : b.Orderly) (hp : b.Patient)
    (hwaits : b.engine.isCancelled (some f) = false) (hruns : b.halted = false)
    {result : Except Payload Outcome} (hends : chain.stop b.gates false = .ends result) :
    answering c chain ∈ b.drive.engine.terminals := by
  cases hcourse with
  | gone hgone => cases hwaits.symm.trans hgone
  | halted hhalted => cases hruns.symm.trans hhalted
  | answered hanswered => exact (terminals_drive ho hp _).mpr (.inl hanswered)
  | running t ht hc hf hcourse =>
    refine (terminals_drive ho hp _).mpr (.inr ⟨t, ht, ?_⟩)
    have hstop : b.stopOf t = .ends result := by
      rw [stopOf, hf, hwaits]
      exact (hcourse.stop b.gates fun _ h => h).trans hends
    rw [closes?_of_ends hstop, hc, answering, Act.result_of_ends hends]
    unfold Engine.closing
    rw [hf, hwaits]
    rfl

/-- A client that waits until a request on its course is over sees either that it is not, or what
its chain comes to. -/
theorem Course.answer (hcourse : Course c f chain b) {os : List Occurrence} (l : Ledger os b)
    (hwaits : b.engine.isCancelled (some f) = false) (hruns : b.halted = false) (millis : Nat) :
    b.answer millis c = .error (.timeout millis) ∨
      ∀ os' b', Unfolds b os' b' → b'.answer millis c =
        .ok (.ofResponse (Response.ofResult (chain.run false).result).fitted.1) := by
  cases hcourse with
  | gone hgone => cases hwaits.symm.trans hgone
  | halted hhalted => cases hruns.symm.trans hhalted
  | answered hanswered => exact .inr fun _ _ h => l.answer_of_answered h hanswered millis
  | running t ht hc hf hcourse =>
    left
    unfold Bridge.answer
    rw [l.not_ended ht hc]

/-- A client whose request reaches a route, with a path and a body whose lengths a frame can tell
(`Reaches`), is told what the chain of the route comes to: the stages that were added to the
router, then those of the route, around its handler. It is told nothing else whatever happens
meanwhile, unless it has given up or tasks run no more; it is told so as soon as tasks run with the
gates of the chain open; and it is told the same from then on. -/
theorem bridge_is_transparent (profile : Profile) (before : List Move) (o : Client.Outbound)
    {server : Server} {mounted : Mounted} {route : Route}
    (h : ((Bridge.new profile).run before).Reaches o server mounted route) :
    let b := (Bridge.new profile).run before
    let globals := (Bridge.new profile).stagesTaken server.router before
    let chain := (Pipeline.mk (globals ++ route.stages) route.handler).start ⟨.get, o.path, o.body⟩
    let r := Response.ofResult (chain.run false).result
    (∃ b₁ pending, b.sendRequest o = .ok (b₁, pending) ∧
      (∀ (after : List Move) (millis : Nat),
        let b₂ := b₁.run after
        b₂.engine.isCancelled (some pending.flag) = false → b₂.halted = false →
          (b₂.answer millis pending.context = .error (.timeout millis) ∨
            ∀ more : List Move,
              (b₂.run more).answer millis pending.context = .ok (.ofResponse r.fitted.1)) ∧
          ((∃ result, chain.stop b₂.gates false = .ends result) →
            ∀ more : List Move,
              (b₂.drive.run more).answer millis pending.context = .ok (.ofResponse r.fitted.1))) ∧
      (b₁.engine.isCancelled (some pending.flag) = false → b₁.halted = false →
        (∃ result, chain.stop b₁.gates false = .ends result) →
          ∀ millis, (b.send millis o).2 = .ok (.ofResponse r.fitted.1))) ∧
    (r.body.length ≤ Frame.maxField → r.fitted.1 = r) := by
  have hglobals : mounted.router.registry.globals =
      (Bridge.new profile).stagesTaken server.router before := by
    rw [← globals_run, globals, h.behind]
    rfl
  obtain ⟨b₁, pending, hsent, hcourse⟩ := h.course (seated_run profile before)
  obtain ⟨os, hos, _, l⟩ := ledger_run profile (before ++ [.sendRequest o])
  have hpatient := hos.patient (orderly_new profile) (patient_new profile)
  have hb₁ : (Bridge.new profile).run (before ++ [.sendRequest o]) = b₁ := by
    rw [run_append, run_cons, run_nil, apply, hsent]
    rfl
  rw [hb₁] at l hpatient
  unfold Registry.pipeline at hcourse
  rw [hglobals] at hcourse
  dsimp only
  generalize (Pipeline.mk _ route.handler).start _ = chain at hcourse ⊢
  -- a drive answers the request, and the answer stays
  have hdrive : ∀ os b₂, Ledger os b₂ → b₂.Patient →
      Course pending.context pending.flag chain b₂ →
      b₂.engine.isCancelled (some pending.flag) = false → b₂.halted = false →
      (∃ result, chain.stop b₂.gates false = .ends result) → ∀ (more : List Move) millis,
        (b₂.drive.run more).answer millis pending.context =
          .ok (.ofResponse (Response.ofResult (chain.run false).result).fitted.1) := by
    intro os b₂ l₂ hpatient₂ hcourse₂ hwaits hruns hends more millis
    obtain ⟨result, hends⟩ := hends
    obtain ⟨_, hos', _⟩ := b₂.goes_drive.leads
    obtain ⟨_, hmore, _⟩ := leads_run (l₂.unfolds hos').orderly more
    exact (l₂.unfolds hos').answer_of_answered hmore
      (hcourse₂.answered_drive l₂.orderly hpatient₂ hwaits hruns hends) millis
  refine ⟨⟨b₁, pending, hsent, ?_, ?_⟩, Response.fitted_eq⟩
  · intro after millis hwaits hruns
    obtain ⟨_, hafter, _⟩ := leads_run l.orderly after
    have hcourse₂ := hafter.course l.orderly hcourse
    have l₂ := l.unfolds hafter
    refine ⟨?_, ?_⟩
    · refine (hcourse₂.answer l₂ hwaits hruns millis).imp_right ?_
      intro hanswer more
      obtain ⟨_, hmore, _⟩ := leads_run l₂.orderly more
      exact hanswer _ _ hmore
    · intro hends more
      exact hdrive _ _ l₂ (hafter.patient l.orderly hpatient) hcourse₂ hwaits hruns hends more millis
  · intro hwaits hruns hends millis
    unfold send
    rw [hsent]
    exact hdrive _ _ l hpatient hcourse hwaits hruns hends [] millis

/-- A history that starts a server with one route, behind a stage of its router and one of its
own. -/
def echoing : List Move := [
  .addRouter,
  .addStage 0 (.underPath "versioned" "/v1"),
  .addRoute 0 "/echo" ⟨[.appending "tail" [33]], fun request =>
    .done (.ok ⟨200, Utf8.encode request.path ++ request.body⟩)⟩,
  .addServer 0 80 {},
  .start 0]

theorem echo_is_told :
    let b := (Bridge.new .memory).run echoing
    let o : Client.Outbound := { path := "/echo", body := [63] }
    (∃ server mounted route, b.Reaches o server mounted route) ∧
      ∀ millis, (b.send millis o).2 = .ok ⟨200, Utf8.encode "/v1/echo?!", true⟩ := by
  have h : ((Bridge.new .memory).run echoing).Reaches { path := "/echo", body := [63] }
      { port := 80, router := 0, stage := .running 32 } _ _ :=
    ⟨⟨0, rfl⟩, by decide, rfl, ⟨0, by decide +kernel, rfl⟩, rfl, by decide +kernel,
      by decide +kernel, by decide +kernel⟩
  refine ⟨⟨_, _, _, h⟩, ?_⟩
  intro millis
  obtain ⟨⟨b₁, pending, hsent, _, hsend⟩, hfits⟩ :=
    bridge_is_transparent .memory echoing { path := "/echo", body := [63] } h
  have hwaits : (((Bridge.new .memory).run echoing).sendRequest
      { path := "/echo", body := [63] }).map (fun x => x.1.engine.isCancelled (some x.2.flag)) =
        .ok false := by decide +kernel
  have hruns : (((Bridge.new .memory).run echoing).sendRequest
      { path := "/echo", body := [63] }).map (·.1.halted) = .ok false := by decide +kernel
  rw [hsent] at hwaits hruns
  have htold := hsend (Except.ok.inj hwaits) (Except.ok.inj hruns) ⟨_, rfl⟩ millis
  rw [hfits (by decide +kernel)] at htold
  exact htold

end Bridge
end RequestBridge
