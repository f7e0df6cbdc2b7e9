import RequestBridge.Proofs.Bridge.Alike
import RequestBridge.Proofs.Bridge.Drive
import RequestBridge.Proofs.Bridge.Endings
import Mathlib.Data.List.Pairwise

/-! Peers do not disturb each other.

Two bridges are apart by one peer if they differ only in what its requests have come to and in
whether it has given up (`Apart`). Every move keeps them so (`Apart.apply`): a step of another
request does the same on both, and a step of its own requests shows on neither. So a peer that
gives up does not change how any request but its own ends (`terminalOf?_cancel`). -/
namespace RequestBridge

theorem Engine.isCancelled_congr {e e' : Engine} (h : e'.cancelled = e.cancelled)
    (flag : Option Address) : e'.isCancelled flag = e.isCancelled flag := by
  unfold isCancelled
  rw [h]

theorem Engine.isCancelled_cancel (e : Engine) (f : Address) (flag : Option Address) :
    (e.cancel f).isCancelled flag = (decide (flag = some f) || e.isCancelled flag) := by
  cases flag with
  | none => rfl
  | some g =>
    refine List.contains_cons.trans ?_
    by_cases hg : g = f
    · rw [hg]
      simp
    · rw [decide_eq_false (fun h => hg (Option.some.inj h)), beq_eq_false_iff_ne.mpr hg]
      rfl

namespace Bridge

/-- A bridge in order, on which the requests of the peer `f` have contexts of their own only. -/
structure Guards (f : Address) (own : Address → Prop) (b : Bridge) : Prop where
  orderly : b.Orderly
  patient : b.Patient
  owns : ∀ t ∈ b.tasks, t.flag = some f → ∀ c, t.context = some c → own c

/-- Bridges that differ only in what the requests of the peer `f` have come to, and in whether
it has given up. -/
structure Apart (f : Address) (own : Address → Prop) (b b' : Bridge) : Prop where
  alike : b.Alike b'
  cancelled : ∀ flag, flag ≠ some f → b'.engine.isCancelled flag = b.engine.isCancelled flag
  tasks : ∀ t, t.flag ≠ some f → (t ∈ b'.tasks ↔ t ∈ b.tasks)
  terminals : ∀ T, ¬ own T.context → (T ∈ b'.engine.terminals ↔ T ∈ b.engine.terminals)

variable {f : Address} {own : Address → Prop} {b b' : Bridge}

theorem Happens.addresses {b b' : Bridge} {os : List Occurrence} (h : Happens b os b')
    (ho : b.Orderly) {t : Task} (ht : t ∈ b'.tasks) :
    (∃ u ∈ b.tasks, u.addresses = t.addresses) ∨
      ∃ call ∈ Occurrence.arrivals os, call.addresses = t.addresses := by
  have hmem := (h.conserved ho).mem_iff.mp
    (List.mem_append_left _ (List.mem_map.mpr ⟨t, ht, rfl⟩))
  exact (List.mem_append.mp hmem).imp List.mem_map.mp List.mem_map.mp

theorem Guards.unfolds {os : List Occurrence} (g : Guards f own b) (h : Unfolds b os b')
    (hown : ∀ call ∈ Occurrence.arrivals os, call.flag = some f →
      ∀ c, call.context = some c → own c) : Guards f own b' := by
  induction h with
  | refl _ => exact g
  | step hstep _ ih =>
    rw [Occurrence.arrivals_append] at hown
    refine ih ⟨hstep.orderly g.orderly, hstep.patient g.orderly g.patient, ?_⟩ ?_
    · intro t ht hflag c hc
      rcases hstep.addresses g.orderly ht with ⟨u, hu, haddresses⟩ | ⟨call, hcall, haddresses⟩
      · exact g.owns u hu ((congrArg (·.2) haddresses).trans hflag) c
          ((congrArg (·.1) haddresses).trans hc)
      · exact hown call (List.mem_append_left _ hcall) ((congrArg (·.2) haddresses).trans hflag) c
          ((congrArg (·.1) haddresses).trans hc)
    · intro call hcall
      exact hown call (List.mem_append_right _ hcall)

/-- A task that ends with a terminal action on the context of another peer is of another peer. -/
theorem Guards.flag_of_closes? (g : Guards f own b) {t : Task} (ht : t ∈ b.tasks) {T : Terminal}
    (hcloses : b.closes? t = some T) (hT : ¬ own T.context) : t.flag ≠ some f := by
  intro hflag
  unfold closes? at hcloses
  split at hcloses
  · obtain ⟨c, hc, rfl⟩ := Option.map_eq_some_iff.mp hcloses
    rw [Engine.context_closing] at hT
    exact hT (g.owns t ht hflag c hc)
  · cases hcloses

/-- A task keeps its peer. -/
theorem Guards.flag_of_continues (g : Guards f own b) {x : Bridge} (h : b.Continues x) {t u : Task}
    (hu : u ∈ b.tasks) (hflag : u.flag ≠ some f) (ht : t ∈ x.tasks) (hid : t.id = u.id) :
    t.flag ≠ some f := by
  obtain ⟨v, hv, hticket, _⟩ := h.tasks t ht
  have hvu := g.orderly.distinct.eq_of_id hu hv ((congrArg (·.1) hticket).symm.trans hid)
  rw [← hvu, ← show t.flag = v.flag from congrArg (·.2.2.2) hticket] at hflag
  exact hflag

namespace Apart

theorem refl (b : Bridge) : Apart f own b b :=
  ⟨.refl b, fun _ _ => rfl, fun _ _ => .rfl, fun _ _ => .rfl⟩

theorem symm (h : Apart f own b b') : Apart f own b' b where
  alike := h.alike.symm
  cancelled flag hflag := (h.cancelled flag hflag).symm
  tasks t ht := (h.tasks t ht).symm
  terminals T hT := (h.terminals T hT).symm

theorem trans {b'' : Bridge} (h : Apart f own b b') (h' : Apart f own b' b'') :
    Apart f own b b'' where
  alike := h.alike.trans h'.alike
  cancelled flag hflag := (h'.cancelled flag hflag).trans (h.cancelled flag hflag)
  tasks t ht := (h'.tasks t ht).trans (h.tasks t ht)
  terminals T hT := (h'.terminals T hT).trans (h.terminals T hT)

/-- What shows on neither of two bridges leaves them apart as they were. -/
theorem aside {x x' : Bridge} (h : Apart f own b b') (hx : Apart f own b x)
    (hx' : Apart f own b' x') : Apart f own x x' := (hx.symm.trans h).trans hx'

end Apart

/-! ### The peer itself -/

theorem apart_cancel (b : Bridge) : Apart f own b (b.cancel f) where
  alike := ⟨⟨_, _, _, rfl⟩, rfl, rfl, rfl, rfl, rfl⟩
  cancelled flag hflag := by
    refine (b.engine.isCancelled_cancel f flag).trans ?_
    rw [decide_eq_false hflag, Bool.false_or]
  tasks _ _ := .rfl
  terminals _ _ := .rfl

/-- To ask a copy of a cancellation token is told to the engine and shows nowhere else. -/
theorem apart_askCopy (b : Bridge) (flag : Address) : Apart f own b (b.askCopy flag) := by
  unfold askCopy
  split
  · refine ⟨⟨⟨_, _, _, rfl⟩, rfl, rfl, rfl, rfl, rfl⟩, fun _ _ => rfl, fun _ _ => .rfl, ?_⟩
    intro T _
    rw [Engine.ask_eq, Engine.terminals_noted]
    exact iff_of_eq (congrArg (T ∈ ·) (List.append_nil _))
  · exact .refl b

theorem apart_dropCopy (b : Bridge) (flag : Address) : Apart f own b (b.dropCopy flag) := by
  unfold dropCopy
  split
  · dsimp only
    rw [Engine.letGo_eq]
    refine ⟨⟨⟨_, _, _, rfl⟩, rfl, rfl, rfl, rfl, rfl⟩, fun _ _ => rfl, fun _ _ => .rfl, ?_⟩
    intro T _
    rw [Engine.terminals_noted, List.filterMap_reverse, Engine.terminal?_freeing]
    exact iff_of_eq (congrArg (T ∈ ·) (List.append_nil _))
  · exact .refl b

/-! ### Steps of tasks -/

theorem Continues.alike (h : b.Continues b') : b.Alike b' := by
  obtain ⟨calls, hcalls⟩ := h.engine
  refine ⟨?_, h.routers, h.servers, h.nextTask, h.gates, h.halted⟩
  rw [hcalls]
  exact (Engine.Alike.refl b.engine).noted [] calls

/-- What a step of a task makes of it. -/
theorem mem_advance_self (ho : b.Orderly) {t u : Task} (ht : t ∈ b.tasks) (hid : u.id = t.id) :
    u ∈ (b.advance t.id).tasks ↔ (t.begun = true → t.act.end? = none) ∧
      u = t.next b.gates (b.engine.isCancelled t.flag) := by
  have hfind := task?_of_mem ho.distinct ht
  by_cases hgoes : t.begun = true → t.act.end? = none
  · rw [(advance_proceeds ho.distinct hfind hgoes).mem_tasks ht]
    exact (or_iff_left fun hand => hand.2 hid).trans (and_iff_right hgoes).symm
  · obtain ⟨hbegun, hend⟩ := not_forall.mp hgoes
    obtain ⟨result, hresult⟩ := Option.ne_none_iff_exists'.mp hend
    exact iff_of_false (not_mem_advance hfind hbegun hresult hid) fun hand => hgoes hand.1

/-! ### Tasks that are dropped, and requests that are rejected -/

theorem alike_discard (b : Bridge) (t : Task) : b.Alike (b.discard t) := by
  refine ⟨?_, rfl, rfl, rfl, rfl, rfl⟩
  rw [discard_engine]
  exact (Engine.Alike.refl b.engine).noted [] _

theorem discard_cancelled (b : Bridge) (t : Task) :
    (b.discard t).engine.cancelled = b.engine.cancelled := by
  rw [discard_engine]
  rfl

theorem discard_terminals (b : Bridge) (t : Task) :
    (b.discard t).engine.terminals =
      b.engine.terminals ++ (t.context.map Terminal.released).toList := by
  rw [discard_engine, Engine.terminals_noted, Departure.terminals_calls]
  rfl

theorem alike_discards (ts : List Task) (b : Bridge) : b.Alike (ts.foldl discard b) := by
  induction ts generalizing b with
  | nil => exact .refl b
  | cons t rest ih => exact (b.alike_discard t).trans (ih _)

theorem discards_cancelled (ts : List Task) (b : Bridge) :
    (ts.foldl discard b).engine.cancelled = b.engine.cancelled := by
  induction ts generalizing b with
  | nil => rfl
  | cons t rest ih => exact (ih _).trans (b.discard_cancelled t)

theorem discards_terminals (ts : List Task) (b : Bridge) :
    (ts.foldl discard b).engine.terminals =
      b.engine.terminals ++ ts.filterMap fun t => t.context.map Terminal.released := by
  induction ts generalizing b with
  | nil => exact (List.append_nil _).symm
  | cons t rest ih =>
    rw [List.foldl_cons, ih, discard_terminals, List.append_assoc]
    cases hc : t.context <;> simp [hc]

/-- Where tasks run no more, those that are left are let go. -/
theorem terminals_halt (b : Bridge) (T : Terminal) :
    T ∈ b.halt.engine.terminals ↔
      T ∈ b.engine.terminals ∨ ∃ t ∈ b.tasks, t.context.map Terminal.released = some T := by
  unfold halt
  rw [discards_terminals, List.mem_append, List.mem_filterMap]
  refine or_congr_right (exists_congr fun t => and_congr_left fun _ => ?_)
  exact (List.mergeSort_perm b.tasks _).mem_iff

theorem reject_terminals (b : Bridge) (call : Inbound) (reason : Rejection) :
    (b.reject call reason).engine.terminals = b.engine.terminals ++
      (call.context.map fun c => b.engine.closing c reason.response call.flag).toList := by
  rw [reject_engine, Engine.terminals_noted, Departure.terminals_calls]
  rfl

theorem Alike.admission (h : b.Alike b') (attached : Option ServerId) (call : Inbound) :
    b'.admission attached call = b.admission attached call := by
  unfold Bridge.admission dispatcher?
  rw [h.servers, h.routers]

/-- A request that is handed over has the addresses that the engine has equipped it with. -/
theorem call_handOver (b : Bridge) (attached : Option ServerId)
    (withContext withFlag cancelled : Bool) (route : UInt16) (frame : Option Bytes) :
    (b.handOver attached withContext withFlag cancelled route frame).2 =
      ⟨route, frame, (b.engine.equip withContext withFlag cancelled).2.1,
        (b.engine.equip withContext withFlag cancelled).2.2⟩ := rfl

theorem handOver_eq (b : Bridge) (attached : Option ServerId)
    (withContext withFlag cancelled : Bool) (route : UInt16) (frame : Option Bytes) :
    (b.handOver attached withContext withFlag cancelled route frame).1 =
      receive { b with engine := (b.engine.equip withContext withFlag cancelled).1 } attached
        (b.handOver attached withContext withFlag cancelled route frame).2 := rfl

/-- A task that is let go on the context of another peer is of another peer. -/
theorem Guards.flag_of_released (g : Guards f own b) {t : Task} (ht : t ∈ b.tasks) {T : Terminal}
    (hreleased : t.context.map Terminal.released = some T) (hT : ¬ own T.context) :
    t.flag ≠ some f := by
  intro hflag
  obtain ⟨c, hc, rfl⟩ := Option.map_eq_some_iff.mp hreleased
  exact hT (g.owns t ht hflag c hc)

namespace Apart

theorem closes? (h : Apart f own b b') {t : Task} (hflag : t.flag ≠ some f) :
    b'.closes? t = b.closes? t := by
  unfold Bridge.closes? stopOf Engine.closing
  rw [h.alike.gates, h.cancelled t.flag hflag]

/-- Whatever steps the tasks take on either side, it is enough that they lead to the same tasks
of other peers. -/
theorem continues (h : Apart f own b b') (g : Guards f own b) (g' : Guards f own b')
    {x x' : Bridge} (hx : b.Continues x) (hx' : b'.Continues x')
    (htasks : ∀ t, t.flag ≠ some f → (t ∈ x'.tasks ↔ t ∈ x.tasks)) : Apart f own x x' where
  alike := hx.alike.symm.trans (h.alike.trans hx'.alike)
  cancelled flag hflag := by rw [hx.isCancelled, hx'.isCancelled, h.cancelled flag hflag]
  tasks := htasks
  terminals T hT := by
    rw [hx.terminals, hx'.terminals, h.terminals T hT]
    refine or_congr_right (exists_congr fun u => ?_)
    constructor
    · rintro ⟨hu, hgone, hcloses⟩
      have hflag := g'.flag_of_closes? hu hcloses hT
      refine ⟨(h.tasks u hflag).mp hu, ?_, (h.closes? hflag).symm.trans hcloses⟩
      intro t ht hid
      exact hgone t ((htasks t (g.flag_of_continues hx ((h.tasks u hflag).mp hu) hflag ht hid)).mpr ht) hid
    · rintro ⟨hu, hgone, hcloses⟩
      have hflag := g.flag_of_closes? hu hcloses hT
      refine ⟨(h.tasks u hflag).mpr hu, ?_, (h.closes? hflag).trans hcloses⟩
      intro t ht hid
      exact hgone t ((htasks t (g'.flag_of_continues hx' ((h.tasks u hflag).mpr hu) hflag ht hid)).mp ht) hid


theorem mem_advance (h : Apart f own b b') (g : Guards f own b) (g' : Guards f own b')
    {id : TaskId} {u : Task} (hflag : u.flag ≠ some f) (hu : u ∈ (b.advance id).tasks) :
    u ∈ (b'.advance id).tasks := by
  obtain ⟨t, ht, hticket, _⟩ := ((b.goes_advance id).continues g.orderly).tasks u hu
  have hid : u.id = t.id := congrArg (·.1) hticket
  by_cases hself : u.id = id
  · rw [← hself, hid] at hu ⊢
    rw [show u.flag = t.flag from congrArg (·.2.2.2) hticket] at hflag
    obtain ⟨hgoes, hnext⟩ := (mem_advance_self g.orderly ht hid).mp hu
    refine (mem_advance_self g'.orderly ((h.tasks t hflag).mpr ht) hid).mpr ⟨hgoes, ?_⟩
    rw [h.alike.gates, h.cancelled t.flag hflag]
    exact hnext
  · have hthere := (Bridge.mem_advance g.orderly id hself).mp hu
    exact (Bridge.mem_advance g'.orderly id hself).mpr ((h.tasks u hflag).mpr hthere)

/-- A step of a request of the peer shows on neither side, and a step of another request is the
same on both. -/
theorem advance (h : Apart f own b b') (g : Guards f own b) (g' : Guards f own b') (id : TaskId) :
    Apart f own (b.advance id) (b'.advance id) :=
  h.continues g g' ((b.goes_advance id).continues g.orderly)
    ((b'.goes_advance id).continues g'.orderly) fun _ hflag =>
      ⟨h.symm.mem_advance g' g hflag, h.mem_advance g g' hflag⟩

theorem mem_drive (h : Apart f own b b') (g : Guards f own b) (g' : Guards f own b') {t : Task}
    (hflag : t.flag ≠ some f) (ht : t ∈ b.drive.tasks) : t ∈ b'.drive.tasks := by
  obtain ⟨u, hu, gate, rest, hwaits, rfl⟩ := (Bridge.mem_drive g.orderly g.patient t).mp ht
  refine (Bridge.mem_drive g'.orderly g'.patient _).mpr
    ⟨u, (h.tasks u hflag).mpr hu, gate, rest, ?_, rfl⟩
  rw [← hwaits, stopOf, stopOf, h.alike.gates, h.cancelled u.flag hflag]

theorem drive (h : Apart f own b b') (g : Guards f own b) (g' : Guards f own b') :
    Apart f own b.drive b'.drive :=
  h.continues g g' (b.goes_drive.continues g.orderly) (b'.goes_drive.continues g'.orderly)
    fun _ hflag => ⟨h.symm.mem_drive g' g hflag, h.mem_drive g g' hflag⟩

/-! ### What is the same on both sides -/

theorem cancel (h : Apart f own b b') (flag : Address) :
    Apart f own (b.cancel flag) (b'.cancel flag) where
  alike := h.alike.withEngine (h.alike.engine.cancel flag)
  cancelled asked hasked := by
    show (b'.engine.cancel flag).isCancelled asked = (b.engine.cancel flag).isCancelled asked
    rw [Engine.isCancelled_cancel, Engine.isCancelled_cancel, h.cancelled asked hasked]
  tasks := h.tasks
  terminals := h.terminals

theorem openGate (h : Apart f own b b') (gate : String) :
    Apart f own (b.openGate gate) (b'.openGate gate) where
  alike := ⟨h.alike.engine, h.alike.routers, h.alike.servers, h.alike.nextTask,
    congrArg (gate :: ·) h.alike.gates, h.alike.halted⟩
  cancelled := h.cancelled
  tasks t ht := by
    rw [(b.openGate_tasks gate).mem_iff, (b'.openGate_tasks gate).mem_iff, List.mem_map,
      List.mem_map]
    refine exists_congr fun u => and_congr_left ?_
    rintro rfl
    refine h.tasks u ?_
    rwa [show (u.through gate).flag = u.flag from
      congrArg (·.2.2.2) (u.ticket_through gate)] at ht
  terminals := h.terminals

/-- What is managed does not touch the requests. -/
theorem manage (h : Apart f own b b') (m : Move) (hm : m.isManagement = true) :
    Apart f own (b.apply m) (b'.apply m) := by
  have htraffic := (b.managed_apply m hm).traffic
  have htraffic' := (b'.managed_apply m hm).traffic
  refine ⟨h.alike.apply m hm, ?_, ?_, ?_⟩
  · intro flag hflag
    rw [Engine.isCancelled_congr (congrArg (fun traffic => traffic.engine.cancelled) htraffic),
      Engine.isCancelled_congr (congrArg (fun traffic => traffic.engine.cancelled) htraffic')]
    exact h.cancelled flag hflag
  · intro t ht
    rw [show (b.apply m).tasks = b.tasks from congrArg Traffic.tasks htraffic,
      show (b'.apply m).tasks = b'.tasks from congrArg Traffic.tasks htraffic']
    exact h.tasks t ht
  · intro T hT
    have hdealings : (b.apply m).engine.dealings = b.engine.dealings :=
      congrArg (fun traffic => traffic.engine.dealings) htraffic
    have hdealings' : (b'.apply m).engine.dealings = b'.engine.dealings :=
      congrArg (fun traffic => traffic.engine.dealings) htraffic'
    rw [Engine.terminals_eq_dealings, Engine.terminals_eq_dealings, hdealings, hdealings',
      ← Engine.terminals_eq_dealings, ← Engine.terminals_eq_dealings]
    exact h.terminals T hT

theorem discard (h : Apart f own b b') (t : Task) : Apart f own (b.discard t) (b'.discard t) where
  alike := (b.alike_discard t).symm.trans (h.alike.trans (b'.alike_discard t))
  cancelled flag hflag := by
    rw [Engine.isCancelled_congr (b.discard_cancelled t),
      Engine.isCancelled_congr (b'.discard_cancelled t)]
    exact h.cancelled flag hflag
  tasks u hu := by
    show u ∈ Task.without b'.tasks t.id ↔ u ∈ Task.without b.tasks t.id
    rw [Task.mem_without, Task.mem_without, h.tasks u hu]
  terminals T hT := by
    rw [discard_terminals, discard_terminals, List.mem_append, List.mem_append, h.terminals T hT]

theorem halt (h : Apart f own b b') (g : Guards f own b) (g' : Guards f own b') :
    Apart f own b.halt b'.halt where
  alike := by
    have hclosed : Bridge.Alike { b with halted := true } { b' with halted := true } :=
      ⟨h.alike.engine, h.alike.routers, h.alike.servers, h.alike.nextTask, h.alike.gates, rfl⟩
    exact (alike_discards _ _).symm.trans (hclosed.trans (alike_discards _ _))
  cancelled flag hflag := by
    have hsame : ∀ x : Bridge, x.halt.engine.cancelled = x.engine.cancelled :=
      fun x => discards_cancelled _ _
    rw [Engine.isCancelled_congr (hsame b), Engine.isCancelled_congr (hsame b')]
    exact h.cancelled flag hflag
  tasks _ _ := by rw [tasks_halt, tasks_halt]
  terminals T hT := by
    rw [terminals_halt, terminals_halt, h.terminals T hT]
    refine or_congr_right (exists_congr fun t => ?_)
    constructor
    · rintro ⟨ht, hreleased⟩
      exact ⟨(h.tasks t (g'.flag_of_released ht hreleased hT)).mp ht, hreleased⟩
    · rintro ⟨ht, hreleased⟩
      exact ⟨(h.tasks t (g.flag_of_released ht hreleased hT)).mpr ht, hreleased⟩

/-! ### Requests that are handed over -/

theorem equip (h : Apart f own b b') (withContext withFlag cancelled : Bool) :
    Apart f own { b with engine := (b.engine.equip withContext withFlag cancelled).1 }
      { b' with engine := (b'.engine.equip withContext withFlag cancelled).1 } := by
  obtain ⟨journal, peers, lastError, he⟩ := h.alike.engine
  have hnext : b'.engine.next = b.engine.next := by rw [he]
  have hprofile : b'.engine.profile = b.engine.profile := by rw [he]
  rw [Engine.equip_eq, Engine.equip_eq, hnext, hprofile]
  refine ⟨h.alike.withEngine ?_, ?_, h.tasks, h.terminals⟩
  · rw [he]
    exact ⟨_, _, _, rfl⟩
  · intro flag hflag
    have hsame := h.cancelled flag hflag
    cases flag with
    | none => rfl
    | some k =>
      show List.contains _ k = List.contains _ k
      rw [List.contains_append, List.contains_append]
      exact congrArg (_ || ·) hsame

theorem reject (h : Apart f own b b') (call : Inbound) (reason : Rejection)
    (hown : call.flag = some f → ∀ c, call.context = some c → own c) :
    Apart f own (b.reject call reason) (b'.reject call reason) where
  alike := by
    refine ⟨?_, h.alike.routers, h.alike.servers, h.alike.nextTask, h.alike.gates, h.alike.halted⟩
    rw [reject_engine, reject_engine]
    exact h.alike.engine.noted _ _
  cancelled flag hflag := by
    rw [reject_engine, reject_engine]
    exact h.cancelled flag hflag
  tasks := h.tasks
  terminals T hT := by
    rw [reject_terminals, reject_terminals, List.mem_append, List.mem_append, h.terminals T hT]
    refine or_congr_right ?_
    rw [Option.mem_toList, Option.mem_toList]
    by_cases hflag : call.flag = some f
    · refine iff_of_false ?_ ?_
      · intro hreleased
        obtain ⟨c, hc, rfl⟩ := Option.map_eq_some_iff.mp hreleased
        rw [Engine.context_closing] at hT
        exact hT (hown hflag c hc)
      · intro hreleased
        obtain ⟨c, hc, rfl⟩ := Option.map_eq_some_iff.mp hreleased
        rw [Engine.context_closing] at hT
        exact hT (hown hflag c hc)
    · unfold Engine.closing
      rw [h.cancelled call.flag hflag]

theorem enqueue (h : Apart f own b b') (call : Inbound) (act : Act Outcome) :
    Apart f own (b.enqueue call act) (b'.enqueue call act) where
  alike := ⟨h.alike.engine, h.alike.routers, h.alike.servers,
    congrArg (· + 1) h.alike.nextTask, h.alike.gates, h.alike.halted⟩
  cancelled := h.cancelled
  tasks t ht := by
    have hnew : b'.newTask call act = b.newTask call act := by
      unfold newTask
      rw [h.alike.nextTask]
    show t ∈ b'.tasks ++ [b'.newTask call act] ↔ t ∈ b.tasks ++ [b.newTask call act]
    rw [List.mem_append, List.mem_append, hnew, h.tasks t ht]
  terminals := h.terminals

theorem spawn (h : Apart f own b b') (call : Inbound) (act : Act Outcome) :
    Apart f own (b.spawn call act) (b'.spawn call act) := by
  have hqueued := h.enqueue call act
  have hnew : b'.newTask call act = b.newTask call act := by
    unfold newTask
    rw [h.alike.nextTask]
  rw [spawn_eq, spawn_eq, hnew, h.alike.halted]
  split
  · exact hqueued.discard _
  · exact hqueued

theorem receive (h : Apart f own b b') (attached : Option ServerId) (call : Inbound)
    (hown : call.flag = some f → ∀ c, call.context = some c → own c) :
    Apart f own (b.receive attached call) (b'.receive attached call) := by
  obtain ⟨events, heq⟩ := b.receive_eq attached call
  obtain ⟨events', heq'⟩ := b'.receive_eq attached call
  rw [heq, heq', h.alike.admission]
  cases b.admission attached call with
  | error reason =>
    have hsaid : Apart f own (b.say events) (b'.say events') :=
      ⟨h.alike.say events events', h.cancelled, h.tasks, h.terminals⟩
    exact hsaid.reject call reason hown
  | ok act => exact h.spawn call act

theorem equip_addresses (h : Apart f own b b') (withContext withFlag cancelled : Bool) :
    (b'.engine.equip withContext withFlag cancelled).2 =
      (b.engine.equip withContext withFlag cancelled).2 := by
  obtain ⟨journal, peers, lastError, he⟩ := h.alike.engine
  rw [he, Engine.equip_eq, Engine.equip_eq]

theorem handOver_call (h : Apart f own b b') (attached : Option ServerId)
    (withContext withFlag cancelled : Bool) (route : UInt16) (frame : Option Bytes) :
    (b'.handOver attached withContext withFlag cancelled route frame).2 =
      (b.handOver attached withContext withFlag cancelled route frame).2 := by
  rw [call_handOver, call_handOver, h.equip_addresses]

theorem handOver (h : Apart f own b b') (attached : Option ServerId)
    (withContext withFlag cancelled : Bool) (route : UInt16) (frame : Option Bytes)
    (hown : ∀ call, call = (b.handOver attached withContext withFlag cancelled route frame).2 →
      call.flag = some f → ∀ c, call.context = some c → own c) :
    Apart f own (b.handOver attached withContext withFlag cancelled route frame).1
      (b'.handOver attached withContext withFlag cancelled route frame).1 := by
  rw [handOver_eq, handOver_eq, h.handOver_call]
  exact (h.equip withContext withFlag cancelled).receive attached _ (hown _ rfl)

/-- The request that a move hands over is the same on both sides. -/
theorem inbound? (h : Apart f own b b') (m : Move) : b'.inbound? m = b.inbound? m := by
  have hsent : ∀ route frame cancelled,
      b'.sent? route frame cancelled = b.sent? route frame cancelled := by
    intro route frame cancelled
    unfold sent?
    rw [h.alike.engine.attached]
    refine congrArg (Option.map · b.engine.attached) (funext fun s => ?_)
    exact h.handOver_call (some s) true true cancelled route (some frame)
  cases m with
  | handOver attached withContext withFlag cancelled route frame =>
    exact congrArg some (h.handOver_call attached withContext withFlag cancelled route frame)
  | sendFrame route frame cancelled => exact hsent route frame cancelled
  | sendRequest o =>
    dsimp only [Bridge.inbound?]
    rw [h.alike.engine.resolve]
    exact congrArg (Option.bind _ ·) (funext fun route => hsent route o.frame o.cancelled)
  | _ => rfl

theorem sendFrame (h : Apart f own b b') (route : UInt16) (frame : Bytes) (cancelled : Bool)
    (hown : ∀ call, b.sent? route frame cancelled = some call → call.flag = some f →
      ∀ c, call.context = some c → own c) :
    Apart f own (((b.sendFrame route frame cancelled).map (·.1)).toOption.getD b)
      (((b'.sendFrame route frame cancelled).map (·.1)).toOption.getD b') := by
  rw [sendFrame_eq, sendFrame_eq, h.alike.engine.attached]
  unfold sent? at hown
  cases hattached : b.engine.attached with
  | none => exact h
  | some s =>
    rw [hattached] at hown
    refine h.handOver (some s) true true cancelled route (some frame) ?_
    rintro call rfl
    exact hown _ rfl

/-- Every move keeps bridges apart by no more than the peer. -/
theorem apply (h : Apart f own b b') (g : Guards f own b) (g' : Guards f own b') (m : Move)
    (hown : ∀ call, b.inbound? m = some call → call.flag = some f →
      ∀ c, call.context = some c → own c) : Apart f own (b.apply m) (b'.apply m) := by
  cases hm : m.isManagement with
  | true => exact h.manage m hm
  | false =>
    cases m with
    | handOver attached withContext withFlag cancelled route frame =>
      refine h.handOver attached withContext withFlag cancelled route frame ?_
      rintro call rfl
      exact hown _ rfl
    | sendFrame route frame cancelled => exact h.sendFrame route frame cancelled hown
    | sendRequest o =>
      dsimp only [Bridge.apply, sendRequest]
      dsimp only [Bridge.inbound?] at hown
      rw [h.alike.engine.resolve]
      cases hroute : o.route <|> b.engine.resolve .get o.path with
      | none => exact h
      | some route =>
        rw [hroute] at hown
        exact h.sendFrame route o.frame o.cancelled hown
    | cancel flag => exact h.cancel flag
    | advance id => exact h.advance g g' id
    | drive => exact h.drive g g'
    | openGate gate => exact h.openGate gate
    | halt => exact h.halt g g'
    | askCopy flag => exact h.aside (b.apart_askCopy flag) (b'.apart_askCopy flag)
    | dropCopy flag => exact h.aside (b.apart_dropCopy flag) (b'.apart_dropCopy flag)
    | _ => cases hm

theorem run (h : Apart f own b b') (g : Guards f own b) (g' : Guards f own b') (moves : List Move)
    (hown : ∀ call ∈ b.inbounds moves, call.flag = some f → ∀ c, call.context = some c → own c) :
    Apart f own (b.run moves) (b'.run moves) ∧ b'.inbounds moves = b.inbounds moves := by
  induction moves generalizing b b' with
  | nil => exact ⟨h, rfl⟩
  | cons m rest ih =>
    have hnow : ∀ call ∈ (b.inbound? m).toList, call.flag = some f →
        ∀ c, call.context = some c → own c :=
      fun call hcall => hown call (List.mem_append_left _ hcall)
    have hsame := h.inbound? m
    obtain ⟨os, hos, harrivals⟩ := leads_apply g.orderly m
    obtain ⟨os', hos', harrivals'⟩ := leads_apply g'.orderly m
    have hfirst := h.apply g g' m fun call hcall => hnow call (Option.mem_toList.mpr hcall)
    obtain ⟨happart, hrest⟩ := ih hfirst (g.unfolds hos (harrivals ▸ hnow))
      (g'.unfolds hos' (harrivals' ▸ hsame ▸ hnow))
      fun call hcall => hown call (List.mem_append_right _ hcall)
    refine ⟨happart, ?_⟩
    rw [inbounds, inbounds, hsame, hrest]

end Apart

/-! ### One peer among others -/

/-- What different elements of a list yield is different, where nothing is yielded twice. -/
theorem eq_of_nodup_filterMap {α β : Type} {f : α → Option β} {xs : List α}
    (h : (xs.filterMap f).Nodup) {x y : α} (hx : x ∈ xs) (hy : y ∈ xs) {c : β}
    (hxc : f x = some c) (hyc : f y = some c) : x = y := by
  have hdistinct := List.pairwise_filterMap.mp h
  have hsymm : Std.Symm fun x y : α => ∀ c, f x = some c → ∀ c', f y = some c' → c ≠ c' :=
    ⟨fun _ _ h c hc c' hc' => (h c' hc' c hc).symm⟩
  by_contra hne
  exact hdistinct.forall hx hy hne c hxc c hyc rfl

theorem Ledger.eq_of_context {os : List Occurrence} {b : Bridge} (l : Ledger os b)
    {call call' : Inbound} (hcall : call ∈ Occurrence.arrivals os)
    (hcall' : call' ∈ Occurrence.arrivals os) {c : Address} (hc : call.context = some c)
    (hc' : call'.context = some c) : call = call' :=
  eq_of_nodup_filterMap l.contexts.nodup hcall hcall' hc hc'

theorem guards_new (profile : Profile) : Guards f own (Bridge.new profile) :=
  ⟨orderly_new profile, patient_new profile, fun _ ht => nomatch ht⟩

/-- A peer that gives up, at any time, changes how no request ends that is not its own. -/
theorem terminalOf?_cancel (profile : Profile) (before after : List Move) (f : Address)
    {call : Inbound} (hcall : call ∈ (Bridge.new profile).inbounds (before ++ after)) {c : Address}
    (hc : call.context = some c) (hflag : call.flag ≠ some f) :
    ((Bridge.new profile).run (before ++ .cancel f :: after)).engine.terminalOf? c =
      ((Bridge.new profile).run (before ++ after)).engine.terminalOf? c := by
  -- the contexts of the peer that gives up
  let own (c : Address) : Prop := ∃ call ∈ (Bridge.new profile).inbounds (before ++ after),
    call.flag = some f ∧ call.context = some c
  obtain ⟨os, hos, harrivals, -⟩ := ledger_run profile before
  obtain ⟨_, _, hall, l⟩ := ledger_run profile (before ++ after)
  obtain ⟨_, _, _, l'⟩ := ledger_run profile (before ++ .cancel f :: after)
  have hown : ∀ call ∈ (Bridge.new profile).inbounds (before ++ after), call.flag = some f →
      ∀ c, call.context = some c → own c :=
    fun call hcall hflag c hc => ⟨call, hcall, hflag, hc⟩
  rw [inbounds_append] at hown
  have g : Guards f own ((Bridge.new profile).run before) :=
    (guards_new profile).unfolds hos fun call hcall =>
      hown call (List.mem_append_left _ (harrivals ▸ hcall))
  have g' : Guards f own (((Bridge.new profile).run before).cancel f) :=
    g.unfolds (Happens.cancel _ f).unfolds fun call hcall => nomatch hcall
  have happart := ((apart_cancel _).run g g' after fun call hcall =>
    hown call (List.mem_append_right _ hcall)).1
  have hother : ¬ own c := by
    rintro ⟨call', hcall', hflag', hc'⟩
    rw [← hall] at hcall hcall'
    rw [l.eq_of_context hcall hcall' hc hc'] at hflag
    exact hflag hflag'
  refine Option.ext fun T => ?_
  rw [l.terminalOf?_eq, l'.terminalOf?_eq]
  refine and_congr_left ?_
  rintro rfl
  rw [run_append, run_append]
  exact happart.terminals T hother

end Bridge
end RequestBridge
