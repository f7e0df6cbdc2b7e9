import RequestBridge.Proofs.Bridge.Handovers
import RequestBridge.Proofs.Bridge.Transparency

/-! What a request sees of its peer.

A chain asks whether its peer has given up as often as it likes, and before its result is told it
is asked once more. The answers are all that a chain learns from outside (`Act.shown`), so they
and its admission settle how a request ends (`Handover.terminal?`). Here the answers are read off
a history (`Bridge.seen`), and it is shown move by move that what is left of a chain comes to the
same with the answers that are yet to come as the whole chain does with all of them
(`Known.apply`). -/
namespace RequestBridge

namespace Act
variable {α : Type}

/-- What an act comes to with the given answers to its questions, and the answer to the last
question, which is asked when it has come to its end. -/
def shown : Act α → List Bool → Option (Except Payload α × Bool)
  | .done value, answers => answers.head?.map fun gone => (.ok value, gone)
  | .panic payload, answers => answers.head?.map fun gone => (.error payload, gone)
  | .mark _ rest, answers => rest.shown answers
  | .log _ rest, answers => rest.shown answers
  | .wait _ rest, answers => rest.shown answers
  | .pause rest, answers => rest.shown answers
  | .poll rest, answers =>
    match answers with
    | [] => none
    | gone :: later => (rest gone).shown later
  | .share rest, answers => rest.shown answers

/-- How often an act asks until it comes to rest, the last question included. -/
def questions (gates : List String) (gone : Bool) : Act α → Nat
  | .done _ => 1
  | .panic _ => 1
  | .mark _ rest => rest.questions gates gone
  | .log _ rest => rest.questions gates gone
  | .wait gate rest => if gate ∈ gates then rest.questions gates gone else 0
  | .pause rest => rest.questions gates gone
  | .poll rest => (rest gone).questions gates gone + 1
  | .share rest => rest.questions gates gone

/-- An act that comes to a closed gate goes on behind it with the answers that are left. -/
theorem shown_of_waits {act : Act α} {gates : List String} {gone : Bool} {gate : String}
    {rest : Act α} (h : act.stop gates gone = .waits gate rest) (later : List Bool) :
    act.shown (List.replicate (act.questions gates gone) gone ++ later) = rest.shown later := by
  induction act with
  | done value => cases h
  | panic payload => cases h
  | wait g inner ih =>
    unfold stop at h
    unfold questions
    split at h
    · next hopen =>
      rw [if_pos hopen]
      exact ih h
    · next hclosed =>
      cases h
      rw [if_neg hclosed]
      rfl
  | poll inner ih => exact ih gone h
  | mark _ inner ih => exact ih h
  | log _ inner ih => exact ih h
  | pause inner ih => exact ih h
  | share inner ih => exact ih h

theorem shown_of_ends {act : Act α} {gates : List String} {gone : Bool}
    {result : Except Payload α} (h : act.stop gates gone = .ends result) :
    act.shown (List.replicate (act.questions gates gone) gone) = some (result, gone) := by
  induction act with
  | done value =>
    cases h
    rfl
  | panic payload =>
    cases h
    rfl
  | wait g inner ih =>
    unfold stop at h
    unfold questions
    split at h
    · next hopen =>
      rw [if_pos hopen]
      exact ih h
    · cases h
  | poll inner ih => exact ih gone h
  | mark _ inner ih => exact ih h
  | log _ inner ih => exact ih h
  | pause inner ih => exact ih h
  | share inner ih => exact ih h

end Act

namespace Task

/-- What a task sees in its next step, if it asks. -/
def glance (t : Task) (gone : Bool) : List Bool :=
  if t.begun then
    match t.act with
    | .done _ => [gone]
    | .panic _ => [gone]
    | .poll _ => [gone]
    | _ => []
  else []

/-- What is left after a step comes to the same with what is left of the answers. -/
theorem shown_next (t : Task) (hgoes : t.begun = true → t.act.end? = none) (gates : List String)
    (gone : Bool) (later : List Bool) :
    t.act.shown (t.glance gone ++ later) = (t.next gates gone).act.shown later := by
  obtain ⟨id, route, context, flag, act, begun, waiting⟩ := t
  cases begun with
  | false => rfl
  | true =>
    cases act with
    | done value => exact absurd (hgoes rfl) nofun
    | panic payload => exact absurd (hgoes rfl) nofun
    | wait gate rest => by_cases hopen : gate ∈ gates <;> simp [next, glance, Act.shown, hopen]
    | _ => rfl

theorem shown_of_end {t : Task} (hbegun : t.begun = true) {result : Except Payload Outcome}
    (hend : t.act.end? = some result) (gone : Bool) :
    t.act.shown (t.glance gone) = some (result, gone) := by
  obtain ⟨id, route, context, flag, act, begun, waiting⟩ := t
  obtain rfl : begun = true := hbegun
  cases act with
  | done value =>
    cases hend
    rfl
  | panic payload =>
    cases hend
    rfl
  | _ => cases hend

end Task

/-- The frame that a peer gets, unless its request is let go. -/
def Terminal.frame? : Terminal → Option Bytes
  | .completed _ frame => some frame
  | .released _ => none

/-- A chain that has come to its end is answered as an engine closes its request. -/
theorem Ending.terminal_settled (e : Engine) (result : Except Payload Outcome) (c : Address)
    (flag : Option Address) : (Ending.settled result).terminal c (e.isCancelled flag) =
      e.closing c (.ofResult result) flag :=
  terminal_of_response rfl e c flag

/-- What is sent depends neither on the context nor on anything else but the end of a request. -/
theorem Ending.frame?_terminal (ending : Ending) (c c' : Address) (gone : Bool) :
    (ending.terminal c gone).frame? = (ending.terminal c' gone).frame? := by
  unfold terminal
  cases ending.response? with
  | none => rfl
  | some r => cases gone <;> rfl

namespace Handover

/-- The terminal action on the context of a request, by its admission and the answers that it
sees, if these suffice for it to come to its end. -/
def terminal? (x : Handover) (c : Address) (answers : List Bool) : Option Terminal :=
  match x.admission with
  | .error reason => answers.head?.map fun gone => (Ending.rejected reason).terminal c gone
  | .ok chain => (chain.shown answers).map fun (result, gone) =>
      (Ending.settled result).terminal c gone

theorem terminal?_of_shown {x : Handover} {chain : Act Outcome} (hchain : x.admission = .ok chain)
    {answers : List Bool} {result : Except Payload Outcome} {gone : Bool}
    (hshown : chain.shown answers = some (result, gone)) (c : Address) :
    x.terminal? c answers = some ((Ending.settled result).terminal c gone) := by
  rw [terminal?, hchain]
  dsimp only
  rw [hshown]
  rfl

theorem context_terminal? {x : Handover} {c : Address} {answers : List Bool} {T : Terminal}
    (h : x.terminal? c answers = some T) : T.context = c := by
  unfold terminal? at h
  split at h
  · obtain ⟨gone, _, rfl⟩ := Option.map_eq_some_iff.mp h
    exact Ending.context_terminal ..
  · obtain ⟨⟨result, gone⟩, _, rfl⟩ := Option.map_eq_some_iff.mp h
    exact Ending.context_terminal ..

/-- The same request that sees the same ends the same. -/
theorem Same.frame? {x x' : Handover} (h : x.Same x') (c c' : Address) (answers : List Bool) :
    (x'.terminal? c' answers).map Terminal.frame? = (x.terminal? c answers).map Terminal.frame? := by
  unfold terminal?
  rw [h.admission]
  split
  · rw [Option.map_map, Option.map_map]
    exact congrArg (Option.map · _) (funext fun gone => Ending.frame?_terminal ..)
  · rw [Option.map_map, Option.map_map]
    exact congrArg (Option.map · _) (funext fun shown => Ending.frame?_terminal ..)

/-- What a request sees when it is handed over, if it is rejected. -/
def glance (x : Handover) (gone : Bool) : List Bool :=
  match x.admission with
  | .error _ => [gone]
  | .ok _ => []

end Handover

namespace Bridge
open Occurrence

/-- The task that is to answer through a context. -/
def bearer? (b : Bridge) (c : Address) : Option Task := b.tasks.find? (·.context == some c)

/-- The answers that the request with a context sees in a move. -/
def sights (b : Bridge) (c : Address) (m : Move) : List Bool :=
  match m with
  | .advance id =>
    match b.bearer? c with
    | some t => if t.id = id then t.glance (b.engine.isCancelled t.flag) else []
    | none => []
  | .drive =>
    match b.bearer? c with
    | some t =>
      let gone := b.engine.isCancelled t.flag
      List.replicate (t.act.questions b.gates gone) gone
    | none => []
  | _ =>
    match b.handover? m with
    | some x =>
      if x.call.context = some c then x.glance ((b.apply m).engine.isCancelled x.call.flag) else []
    | none => []

/-- The answers that the request with a context sees in a history, in order. -/
def seen (b : Bridge) (c : Address) : List Move → List Bool
  | [] => []
  | move :: rest => b.sights c move ++ (b.apply move).seen c rest

/-- What is known of the request with a context: it has not come yet, or it is under way and what
is left of its chain comes to the same with the answers that are yet to come as the whole chain
with all of them, or it is over and has ended as it had to. -/
inductive Known (c : Address) (xs : List Handover) (answers : List Bool) (b : Bridge) : Prop
  | yetToCome (hxs : ∀ x ∈ xs, x.call.context ≠ some c) (hnone : answers = [])
  | underWay {x : Handover} (hx : x ∈ xs) (hc : x.call.context = some c) {t : Task}
      (ht : t ∈ b.tasks) (htc : t.context = some c) {chain : Act Outcome}
      (hchain : x.admission = .ok chain)
      (hshown : ∀ later, chain.shown (answers ++ later) = t.act.shown later)
  | ended {x : Handover} (hx : x ∈ xs) (hc : x.call.context = some c) {T : Terminal}
      (hT : x.terminal? c answers = some T) (hmem : T ∈ b.engine.terminals)

variable {b : Bridge} {os : List Occurrence} {c : Address} {xs : List Handover}
  {answers : List Bool}

/-! ### One request for each context -/

theorem Ledger.eq_of_task_context (l : Ledger os b) {t u : Task} (ht : t ∈ b.tasks)
    (hu : u ∈ b.tasks) (htc : t.context = some c) (huc : u.context = some c) : t = u := by
  have hnodup : b.inFlight.Nodup :=
    (List.nodup_append.mp (l.shared.nodup_iff.mpr l.contexts.nodup)).1
  exact eq_of_nodup_filterMap hnodup ht hu htc huc

theorem Ledger.bearer?_of_mem (l : Ledger os b) {t : Task} (ht : t ∈ b.tasks)
    (htc : t.context = some c) : b.bearer? c = some t := by
  cases hfind : b.bearer? c with
  | none => exact absurd (beq_iff_eq.mpr htc) (List.find?_eq_none.mp hfind t ht)
  | some u =>
    have huc := List.find?_some hfind
    rw [l.eq_of_task_context ht (List.mem_of_find?_eq_some hfind) htc (beq_iff_eq.mp huc)]

/-- The contexts of the requests that were handed over. -/
theorem mem_newContexts_iff (hxs : xs.map Handover.call = arrivals os) :
    c ∈ newContexts os ↔ ∃ x ∈ xs, x.call.context = some c := by
  rw [newContexts, ← hxs, List.filterMap_map, List.mem_filterMap]
  rfl

/-- A request that is not in flight and not handed over in a move sees nothing in it. -/
theorem sights_of_absent {m : Move} (hflight : ∀ t ∈ b.tasks, t.context ≠ some c)
    (hcall : ∀ x, b.handover? m = some x → x.call.context ≠ some c) : b.sights c m = [] := by
  have hnone : b.bearer? c = none :=
    List.find?_eq_none.mpr fun t ht h => hflight t ht (beq_iff_eq.mp h)
  unfold sights
  split
  · rw [hnone]
  · rw [hnone]
  · split
    · next x hx => rw [if_neg (hcall x hx)]
    · rfl

theorem Ledger.absent_of_unknown (l : Ledger os b) (hxs : xs.map Handover.call = arrivals os)
    (h : ∀ x ∈ xs, x.call.context ≠ some c) : ∀ t ∈ b.tasks, t.context ≠ some c := by
  intro t ht htc
  have hflight : c ∈ b.inFlight := List.mem_filterMap.mpr ⟨t, ht, htc⟩
  obtain ⟨x, hx, hc⟩ := (mem_newContexts_iff hxs).mp (l.endsOnce.pending c hflight).1
  exact h x hx hc

theorem Ledger.absent_of_ended (l : Ledger os b) {T : Terminal} (hT : T ∈ b.engine.terminals) :
    ∀ t ∈ b.tasks, t.context ≠ some T.context := by
  intro t ht htc
  have hnone := l.not_ended ht htc
  rw [l.terminalOf?_eq.mpr ⟨hT, rfl⟩] at hnone
  cases hnone

/-! ### Moves that are not steps of tasks -/

theorem halted_halt (b : Bridge) : b.halt.halted = true := (alike_discards _ _).halted

theorem Unfolds.halted {b' : Bridge} (h : Unfolds b os b') (ho : b.Orderly)
    (hhalted : b.halted = true) : b'.halted = true := by
  induction h with
  | refl _ => exact hhalted
  | step hstep _ ih => exact ih (hstep.orderly ho) (hstep.halted ho hhalted)

theorem running_before {m : Move} (ho : b.Orderly) (hruns : (b.apply m).halted = false) :
    b.halted = false := by
  obtain ⟨_, hunfolds, _⟩ := leads_apply ho m
  refine Bool.eq_false_iff.mpr fun hhalted => ?_
  rw [hunfolds.halted ho hhalted] at hruns
  cases hruns

theorem sendFrame_of_unsent {route : UInt16} {frame : Bytes} {cancelled : Bool}
    (h : b.sent? route frame cancelled = none) :
    ((b.sendFrame route frame cancelled).map (·.1)).toOption.getD b = b := by
  rw [sendFrame_eq]
  unfold sent? at h
  cases hattached : b.engine.attached with
  | none => rfl
  | some s =>
    rw [hattached] at h
    cases h

theorem sendRequest_of_unsent {o : Client.Outbound} (h : b.inbound? (.sendRequest o) = none) :
    ((b.sendRequest o).map (·.1)).toOption.getD b = b := by
  dsimp only [inbound?] at h
  unfold sendRequest
  cases hroute : o.route <|> b.engine.resolve .get o.path with
  | none => rfl
  | some route =>
    rw [hroute] at h
    exact sendFrame_of_unsent h

theorem tasks_askCopy (b : Bridge) (flag : Address) : (b.askCopy flag).tasks = b.tasks := by
  unfold askCopy
  split <;> rfl

theorem tasks_dropCopy (b : Bridge) (flag : Address) : (b.dropCopy flag).tasks = b.tasks := by
  unfold dropCopy
  split <;> rfl

/-- The state that a task is in, as far as its answer depends on it, is changed by its own steps
only. -/
theorem stays_apply {m : Move} (ho : b.Orderly) (hadvance : ∀ id, m ≠ .advance id)
    (hdrive : m ≠ .drive) (hruns : (b.apply m).halted = false) {t : Task} (ht : t ∈ b.tasks) :
    ∃ t' ∈ (b.apply m).tasks, t'.context = t.context ∧ t'.act = t.act := by
  have hsame : (b.apply m).tasks = b.tasks →
      ∃ t' ∈ (b.apply m).tasks, t'.context = t.context ∧ t'.act = t.act :=
    fun h => ⟨t, h ▸ ht, rfl, rfl⟩
  cases hhanded : b.handover? m with
  | some x =>
    obtain ⟨-, -, hadmitted⟩ := (handsOver_apply hhanded).admitted (running_before ho hruns)
    split at hadmitted
    · exact hsame hadmitted.1
    · obtain ⟨u, htasks, -⟩ := hadmitted
      exact ⟨t, htasks ▸ List.mem_append_left _ ht, rfl, rfl⟩
  | none =>
    have hunsent := Option.map_eq_none_iff.mp hhanded
    cases hm : m.isManagement with
    | true => exact hsame (congrArg Traffic.tasks (b.managed_apply m hm).traffic)
    | false =>
      cases m with
      | handOver attached withContext withFlag cancelled route frame => cases hhanded
      | sendFrame route frame cancelled =>
        exact hsame (congrArg Bridge.tasks (sendFrame_of_unsent hunsent))
      | sendRequest o => exact hsame (congrArg Bridge.tasks (sendRequest_of_unsent hunsent))
      | cancel flag => exact hsame rfl
      | advance id => exact absurd rfl (hadvance id)
      | drive => exact absurd rfl hdrive
      | openGate gate =>
        refine ⟨t.through gate, ?_, congrArg (·.2.2.1) (t.ticket_through gate), ?_⟩
        · exact (b.openGate_tasks gate).mem_iff.mpr (List.mem_map.mpr ⟨t, ht, rfl⟩)
        · unfold Task.through
          split <;> rfl
      | halt => exact absurd (b.halted_halt.symm.trans hruns) nofun
      | askCopy flag => exact hsame (b.tasks_askCopy flag)
      | dropCopy flag => exact hsame (b.tasks_dropCopy flag)
      | _ => cases hm

/-! ### What is known after a move -/

theorem mem_terminals_apply (ho : b.Orderly) (m : Move) {T : Terminal}
    (hT : T ∈ b.engine.terminals) : T ∈ (b.apply m).engine.terminals := by
  obtain ⟨_, hunfolds, _⟩ := leads_apply ho m
  rw [hunfolds.terminals ho]
  exact List.mem_append_left _ hT

/-- A move that is neither about the task of a request nor about the request itself. -/
theorem Known.aside (h : Known c xs answers b) (l : Ledger os b)
    (hxs : xs.map Handover.call = arrivals os) {m : Move}
    (hcall : ∀ x, b.handover? m = some x → x.call.context ≠ some c)
    (hstays : ∀ x ∈ xs, x.call.context = some c → ∀ t ∈ b.tasks, t.context = some c →
      ∀ chain, x.admission = .ok chain →
      (∀ later, chain.shown (answers ++ later) = t.act.shown later) →
        Known c (xs ++ (b.handover? m).toList) (answers ++ b.sights c m) (b.apply m)) :
    Known c (xs ++ (b.handover? m).toList) (answers ++ b.sights c m) (b.apply m) := by
  cases h with
  | yetToCome hunknown hnone =>
    rw [sights_of_absent (l.absent_of_unknown hxs hunknown) hcall, List.append_nil]
    refine .yetToCome (fun x hx => ?_) hnone
    rcases List.mem_append.mp hx with hx | hx
    · exact hunknown x hx
    · exact hcall x (Option.mem_toList.mp hx)
  | underWay hx hc ht htc hchain hshown => exact hstays _ hx hc _ ht htc _ hchain hshown
  | ended hx hc hT hmem =>
    have hcontext := Handover.context_terminal? hT
    have habsent := l.absent_of_ended hmem
    rw [hcontext] at habsent
    rw [sights_of_absent habsent hcall, List.append_nil]
    exact .ended (List.mem_append_left _ hx) hc hT (mem_terminals_apply l.orderly m hmem)

/-- The move in which a request is handed over. -/
theorem known_handOver (xs : List Handover) {m : Move} {x : Handover}
    (hhanded : b.handover? m = some x) (hc : x.call.context = some c) (hruns : b.halted = false) :
    Known c (xs ++ [x]) (b.sights c m) (b.apply m) := by
  have hmem : x ∈ xs ++ [x] := List.mem_append_right _ (List.mem_singleton.mpr rfl)
  have hsights : b.sights c m = x.glance ((b.apply m).engine.isCancelled x.call.flag) := by
    unfold sights
    split
    · cases hhanded
    · cases hhanded
    · rw [hhanded]
      dsimp only
      rw [if_pos hc]
  obtain ⟨-, -, hadmitted⟩ := (handsOver_apply hhanded).admitted hruns
  rw [hsights]
  unfold Handover.glance
  cases hadmission : x.admission with
  | error reason =>
    rw [hadmission] at hadmitted
    refine .ended hmem hc ?_ (hadmitted.2 c hc)
    rw [Handover.terminal?, hadmission]
    rfl
  | ok chain =>
    rw [hadmission] at hadmitted
    obtain ⟨t, htasks, htc, hact⟩ := hadmitted
    refine .underWay hmem hc ?_ (htc.trans hc) hadmission fun later => ?_
    · rw [htasks]
      exact List.mem_append_right _ (List.mem_singleton.mpr rfl)
    · rw [hact]
      rfl

theorem Known.advance (h : Known c xs answers b) (l : Ledger os b)
    (hxs : xs.map Handover.call = arrivals os) (id : TaskId) :
    Known c xs (answers ++ b.sights c (.advance id)) (b.apply (.advance id)) := by
  have haside := h.aside l hxs (m := .advance id) nofun
  rw [show (b.handover? (.advance id)).toList = [] from rfl, List.append_nil] at haside
  refine haside ?_
  intro x hx hc t ht htc chain hchain hshown
  have hsights : b.sights c (.advance id) =
      if t.id = id then t.glance (b.engine.isCancelled t.flag) else [] := by
    unfold sights
    rw [l.bearer?_of_mem ht htc]
  rw [hsights]
  show Known c xs _ (b.advance id)
  split
  · next hid =>
    subst hid
    have hfind := task?_of_mem l.orderly.distinct ht
    by_cases hgoes : t.begun = true → t.act.end? = none
    · have hnext := (mem_advance_self l.orderly ht (t.id_next b.gates
        (b.engine.isCancelled t.flag))).mpr ⟨hgoes, rfl⟩
      have hcontext := (congrArg (·.2.2.1) (t.ticket_next b.gates
        (b.engine.isCancelled t.flag))).trans htc
      refine .underWay hx hc hnext hcontext hchain fun later => ?_
      rw [List.append_assoc, hshown, t.shown_next hgoes]
    · obtain ⟨hbegun, hend⟩ := not_forall.mp hgoes
      obtain ⟨result, hresult⟩ := Option.ne_none_iff_exists'.mp hend
      have hends : chain.shown (answers ++ t.glance (b.engine.isCancelled t.flag)) =
          some (result, b.engine.isCancelled t.flag) := by
        rw [hshown, Task.shown_of_end hbegun hresult]
      refine .ended hx hc (Handover.terminal?_of_shown hchain hends c) ?_
      rw [advance_finish hfind hbegun hresult, finish_terminals, htc, Ending.terminal_settled]
      exact List.mem_append_right _ (List.mem_singleton.mpr rfl)
  · next hid =>
    rw [List.append_nil]
    exact .underWay hx hc ((mem_advance l.orderly id hid).mpr ht) htc hchain hshown

theorem Known.drive (h : Known c xs answers b) (l : Ledger os b)
    (hxs : xs.map Handover.call = arrivals os) (hp : b.Patient) :
    Known c xs (answers ++ b.sights c .drive) (b.apply .drive) := by
  have haside := h.aside l hxs (m := .drive) nofun
  rw [show (b.handover? .drive).toList = [] from rfl, List.append_nil] at haside
  refine haside ?_
  intro x hx hc t ht htc chain hchain hshown
  have hsights : b.sights c .drive = List.replicate
      (t.act.questions b.gates (b.engine.isCancelled t.flag)) (b.engine.isCancelled t.flag) := by
    unfold sights
    rw [l.bearer?_of_mem ht htc]
  rw [hsights]
  show Known c xs _ b.drive
  cases hstop : b.stopOf t with
  | ends result =>
    have hends := hshown (List.replicate
      (t.act.questions b.gates (b.engine.isCancelled t.flag)) (b.engine.isCancelled t.flag))
    rw [Act.shown_of_ends hstop] at hends
    refine .ended hx hc (Handover.terminal?_of_shown hchain hends c) ?_
    refine (terminals_drive l.orderly hp _).mpr (.inr ⟨t, ht, ?_⟩)
    rw [closes?_of_ends hstop, htc, Ending.terminal_settled]
    rfl
  | waits gate rest =>
    have hmem := (mem_drive l.orderly hp _).mpr ⟨t, ht, gate, rest, hstop, rfl⟩
    refine .underWay hx hc hmem htc hchain fun later => ?_
    rw [List.append_assoc, hshown, Act.shown_of_waits hstop]
    rfl

/-- What is known of a request is known of it after any move, as long as tasks run. -/
theorem Known.apply (h : Known c xs answers b) (l : Ledger os b)
    (hxs : xs.map Handover.call = arrivals os) (hp : b.Patient) (m : Move)
    (hruns : (b.apply m).halted = false) :
    Known c (xs ++ (b.handover? m).toList) (answers ++ b.sights c m) (b.apply m) := by
  by_cases hown : ∃ x, b.handover? m = some x ∧ x.call.context = some c
  · obtain ⟨x, hhanded, hc⟩ := hown
    have hbefore := running_before l.orderly hruns
    -- a request that comes now has a context that no other request had
    have hunknown : c ∉ newContexts os := by
      intro hmem
      have hlow := ((handsOver_apply hhanded).admitted hbefore).2.1 c hc
      exact Nat.not_lt_of_le hlow (l.contexts.within c hmem).2
    rw [mem_newContexts_iff hxs] at hunknown
    have hnew : ∀ x ∈ xs, x.call.context ≠ some c := fun x hx hc => hunknown ⟨x, hx, hc⟩
    cases h with
    | yetToCome _ hnone =>
      rw [hnone, hhanded]
      exact known_handOver xs hhanded hc hbefore
    | underWay hx hc => exact absurd hc (hnew _ hx)
    | ended hx hc => exact absurd hc (hnew _ hx)
  · have hcall : ∀ x, b.handover? m = some x → x.call.context ≠ some c :=
      fun x hx hc => hown ⟨x, hx, hc⟩
    by_cases hadvance : ∃ id, m = .advance id
    · obtain ⟨id, rfl⟩ := hadvance
      rw [show (b.handover? (.advance id)).toList = [] from rfl, List.append_nil]
      exact h.advance l hxs id
    by_cases hdrive : m = .drive
    · subst hdrive
      rw [show (b.handover? .drive).toList = [] from rfl, List.append_nil]
      exact h.drive l hxs hp
    refine h.aside l hxs hcall ?_
    intro x hx hc t ht htc chain hchain hshown
    have hquiet : b.sights c m = [] := by
      unfold sights
      split
      · exact absurd rfl (not_exists.mp hadvance _)
      · exact absurd rfl hdrive
      · split
        · next x hx => rw [if_neg (hcall x hx)]
        · rfl
    obtain ⟨t', ht', hcontext, hact⟩ :=
      stays_apply l.orderly (not_exists.mp hadvance) hdrive hruns ht
    rw [hquiet, List.append_nil]
    refine .underWay (List.mem_append_left _ hx) hc ht' (hcontext.trans htc) hchain ?_
    rw [hact]
    exact hshown

end Bridge
end RequestBridge
