import RequestBridge.Proofs.Bridge.Trace

/-! Where tasks come to rest.

Left to itself a task goes on until its chain ends or comes to a closed gate. Where that is
depends on its chain, on the gates and on its own peer (`Act.stop`), and the steps of tasks, its
own ones included, do not change it (`Goes.continues`). -/
namespace RequestBridge

namespace Act
variable {α : Type}

/-- Where an act comes to rest. -/
inductive Stop (α : Type) where
  | ends (result : Except Payload α)
  /-- It waits at a closed gate, with the rest of it behind the gate. -/
  | waits (gate : String) (rest : Act α)

/-- Where an act comes to rest, with some gates open and one answer for every poll. -/
def stop (gates : List String) (gone : Bool) : Act α → Stop α
  | .done value => .ends (.ok value)
  | .panic payload => .ends (.error payload)
  | .mark _ rest => rest.stop gates gone
  | .log _ rest => rest.stop gates gone
  | .wait gate rest => if gate ∈ gates then rest.stop gates gone else .waits gate rest
  | .pause rest => rest.stop gates gone
  | .poll rest => (rest gone).stop gates gone
  | .share rest => rest.stop gates gone

theorem stop_of_end {act : Act α} {result : Except Payload α} (h : act.end? = some result)
    (gates : List String) (gone : Bool) : act.stop gates gone = .ends result := by
  cases act <;> cases h <;> rfl

/-- An act that ends comes to the result that it has when it runs on its own. -/
theorem result_of_ends {act : Act α} {gates : List String} {gone : Bool}
    {result : Except Payload α} (h : act.stop gates gone = .ends result) :
    (act.run gone).result = result := by
  induction act with
  | done value => cases h; rfl
  | panic payload => cases h; rfl
  | wait gate rest ih =>
    unfold stop at h
    split at h
    · exact ih h
    · cases h
  | poll rest ih => exact ih gone h
  | mark _ rest ih => exact ih h
  | log _ rest ih => exact ih h
  | pause rest ih => exact ih h
  | share rest ih => exact ih h

end Act

namespace Task

/-- Where a task comes to rest. -/
def stop (t : Task) (gates : List String) (gone : Bool) : Act.Stop Outcome :=
  t.act.stop gates gone

/-- A step does not change where a task comes to rest. -/
theorem stop_next (t : Task) (gates : List String) (gone : Bool) :
    (t.next gates gone).stop gates gone = t.stop gates gone := by
  obtain ⟨id, route, context, flag, act, begun, waiting⟩ := t
  cases begun with
  | false => rfl
  | true =>
    cases act with
    | wait gate rest => by_cases hopen : gate ∈ gates <;> simp [next, stop, Act.stop, hopen]
    | _ => rfl

/-- A task that waits does so at a closed gate, which comes next in its chain. -/
def Patient (gates : List String) (t : Task) : Prop :=
  ∀ gate, t.waiting = some gate → t.begun = true ∧ gate ∉ gates ∧ ∃ rest, t.act = .wait gate rest

theorem patient_next {t : Task} {gates : List String} (h : t.Patient gates) (gone : Bool) :
    (t.next gates gone).Patient gates := by
  obtain ⟨id, route, context, flag, act, begun, waiting⟩ := t
  intro g hg
  cases begun with
  | false => exact absurd (h g hg).1 Bool.false_ne_true
  | true =>
    cases act with
    | done value => exact h g hg
    | panic payload => exact h g hg
    | wait gate rest =>
      by_cases hopen : gate ∈ gates
      · simp [next, hopen] at hg
      · simp only [next, hopen, if_true, if_false] at hg ⊢
        cases hg
        exact ⟨trivial, hopen, rest, rfl⟩
    | _ => cases hg

theorem patient_through {t : Task} {gates : List String} (h : t.Patient gates) (gate : String) :
    (t.through gate).Patient (gate :: gates) := by
  intro g hg
  unfold through at hg ⊢
  split at hg
  · cases hg
  · next hne =>
    obtain ⟨hbegun, hclosed, hrest⟩ := h g hg
    have hother : g ≠ gate := by
      rintro rfl
      exact hne (beq_iff_eq.mpr hg)
    rw [if_neg hne]
    exact ⟨hbegun, by simp [hother, hclosed], hrest⟩

/-- A task that waits is at rest. -/
theorem stop_of_waiting {t : Task} {gates : List String} (h : t.Patient gates) {gate : String}
    (hwaiting : t.waiting = some gate) (gone : Bool) :
    ∃ rest, t.act = .wait gate rest ∧ t.stop gates gone = .waits gate rest := by
  obtain ⟨_, hclosed, rest, hact⟩ := h gate hwaiting
  exact ⟨rest, hact, by rw [stop, hact, Act.stop, if_neg hclosed]⟩

end Task

namespace Bridge

/-- No one waits for an open gate. -/
def Patient (b : Bridge) : Prop := ∀ t ∈ b.tasks, t.Patient b.gates

theorem patient_new (profile : Profile) : (Bridge.new profile).Patient := fun _ ht => nomatch ht

theorem Patient.of_eq {b b' : Bridge} (h : b.Patient) (htasks : b'.tasks = b.tasks)
    (hgates : b'.gates = b.gates) : b'.Patient := by
  intro t ht
  rw [hgates]
  exact h t (htasks ▸ ht)

theorem Patient.of_without {b b' : Bridge} (h : b.Patient) {id : TaskId}
    (htasks : b'.tasks = Task.without b.tasks id) (hgates : b'.gates = b.gates) : b'.Patient := by
  intro t ht
  rw [hgates]
  rw [htasks] at ht
  exact h t (Task.mem_without.mp ht).1

/-- The tasks after a step that does not end its task. -/
theorem Proceeds.mem_tasks {b b' : Bridge} {t : Task} (h : b.Proceeds t b') (ht : t ∈ b.tasks)
    (u : Task) : u ∈ b'.tasks ↔
      u = t.next b.gates (b.engine.isCancelled t.flag) ∨ (u ∈ b.tasks ∧ u.id ≠ t.id) := by
  rw [h.tasks.mem_iff, Task.replaced, List.mem_map]
  constructor
  · rintro ⟨v, hv, rfl⟩
    by_cases hid : v.id = t.id
    · left
      rw [if_pos (hid.trans (t.id_next ..).symm)]
    · right
      rw [if_neg (fun h => hid (h.trans (t.id_next ..)))]
      exact ⟨hv, hid⟩
  · rintro (rfl | ⟨hu, hid⟩)
    · exact ⟨t, ht, if_pos (t.id_next ..).symm⟩
    · exact ⟨u, hu, if_neg fun h => hid (h.trans (t.id_next ..))⟩

theorem Proceeds.terminals {b b' : Bridge} {t : Task} (h : b.Proceeds t b') :
    b'.engine.terminals = b.engine.terminals := by
  rcases h.engine with he | ⟨f, _, he⟩
  · rw [he]
  · rw [he]
    exact (b.engine.terminals_noted [.asked f]).trans (List.append_nil _)

theorem Proceeds.mem_ids {b b' : Bridge} {t : Task} (h : b.Proceeds t b') (ht : t ∈ b.tasks)
    (id : TaskId) : (∃ u ∈ b'.tasks, u.id = id) ↔ ∃ u ∈ b.tasks, u.id = id := by
  have hid := t.id_next b.gates (b.engine.isCancelled t.flag)
  constructor
  · rintro ⟨u, hu, rfl⟩
    rcases (h.mem_tasks ht u).mp hu with rfl | ⟨hu, _⟩
    · exact ⟨t, ht, hid.symm⟩
    · exact ⟨u, hu, rfl⟩
  · rintro ⟨u, hu, rfl⟩
    by_cases hut : u.id = t.id
    · exact ⟨_, (h.mem_tasks ht _).mpr (.inl rfl), hid.trans hut.symm⟩
    · exact ⟨u, (h.mem_tasks ht u).mpr (.inr ⟨hu, hut⟩), rfl⟩

theorem Happens.patient {b b' : Bridge} {os : List Occurrence} (h : Happens b os b')
    (ho : b.Orderly) (hp : b.Patient) : b'.Patient := by
  cases h with
  | managed h => exact hp.of_eq (congrArg Traffic.tasks h.traffic) (congrArg Traffic.gates h.traffic)
  | cancel flag => exact hp.of_eq rfl rfl
  | openGate gate =>
    intro t ht
    obtain ⟨u, hu, rfl⟩ := List.mem_map.mp ((b.openGate_tasks gate).mem_iff.mp ht)
    exact Task.patient_through (hp u hu) gate
  | close => exact hp.of_eq rfl rfl
  | askCopy flag =>
    unfold Bridge.askCopy
    split
    · exact hp.of_eq rfl rfl
    · exact hp
  | dropCopy flag =>
    unfold Bridge.dropCopy
    split
    · exact hp.of_eq rfl rfl
    · exact hp
  | reject events hequip hadmission => exact hp.of_eq rfl rfl
  | enqueue hequip hadmission =>
    intro t ht
    rcases List.mem_append.mp ht with ht | ht
    · exact hp t ht
    · cases List.mem_singleton.mp ht
      exact fun gate hgate => nomatch hgate
  | @proceed id t hfind hgoes =>
    have hstep := advance_proceeds ho.distinct hfind hgoes
    have ht := (mem_of_task? hfind).1
    intro u hu
    rw [hstep.gates]
    rcases (hstep.mem_tasks ht u).mp hu with rfl | ⟨hu, _⟩
    · exact Task.patient_next (hp t ht) _
    · exact hp u hu
  | finish hfind hbegun hend => exact hp.of_without rfl rfl
  | discard ht hhalted => exact hp.of_without rfl rfl

theorem Unfolds.patient {b b' : Bridge} {os : List Occurrence} (h : Unfolds b os b')
    (ho : b.Orderly) (hp : b.Patient) : b'.Patient := by
  induction h with
  | refl _ => exact hp
  | step hstep _ ih => exact ih (hstep.orderly ho) (hstep.patient ho hp)

/-! ### Steps of tasks alone -/

/-- Where a task of the bridge comes to rest. -/
def stopOf (b : Bridge) (t : Task) : Act.Stop Outcome :=
  t.stop b.gates (b.engine.isCancelled t.flag)

theorem stopOf_next (b : Bridge) (t : Task) :
    b.stopOf (t.next b.gates (b.engine.isCancelled t.flag)) = b.stopOf t := by
  have hflag : (t.next b.gates (b.engine.isCancelled t.flag)).flag = t.flag :=
    congrArg (·.2.2.2) (t.ticket_next ..)
  rw [stopOf, hflag, Task.stop_next]
  rfl

/-- The terminal action with which a task will end, if it comes to its end and has a context. -/
def closes? (b : Bridge) (t : Task) : Option Terminal :=
  match b.stopOf t with
  | .ends result => t.context.map fun c => b.engine.closing c (.ofResult result) t.flag
  | .waits _ _ => none

theorem closes?_of_ends {b : Bridge} {t : Task} {result : Except Payload Outcome}
    (h : b.stopOf t = .ends result) :
    b.closes? t = t.context.map fun c => b.engine.closing c (.ofResult result) t.flag := by
  rw [closes?, h]

theorem finish_terminals (b : Bridge) (t : Task) (result : Except Payload Outcome) :
    (b.finish t result).engine.terminals = b.engine.terminals ++
      (t.context.map fun c => b.engine.closing c (.ofResult result) t.flag).toList := by
  rw [finish_engine, Engine.terminals_noted, Departure.terminals_calls]
  rfl

/-- What becomes of a bridge by steps of its tasks alone: each of its tasks is still there, on
its way to the same rest, or has come to its end there. -/
structure Continues (b b' : Bridge) : Prop where
  engine : ∃ calls, b'.engine = b.engine.noted calls
  gates : b'.gates = b.gates
  halted : b'.halted = b.halted
  nextTask : b'.nextTask = b.nextTask
  routers : b'.routers = b.routers
  servers : b'.servers = b.servers
  tasks : ∀ t ∈ b'.tasks, ∃ u ∈ b.tasks, t.ticket = u.ticket ∧ b.stopOf t = b.stopOf u
  stays : ∀ u ∈ b.tasks, (∃ t ∈ b'.tasks, t.id = u.id) ∨ ∃ result, b.stopOf u = .ends result
  terminals : ∀ T, T ∈ b'.engine.terminals ↔ T ∈ b.engine.terminals ∨
    ∃ u ∈ b.tasks, (∀ t ∈ b'.tasks, t.id ≠ u.id) ∧ b.closes? u = some T

theorem Continues.refl (b : Bridge) : b.Continues b where
  engine := ⟨[], rfl⟩
  gates := rfl
  halted := rfl
  nextTask := rfl
  routers := rfl
  servers := rfl
  tasks t ht := ⟨t, ht, rfl, rfl⟩
  stays u hu := .inl ⟨u, hu, rfl⟩
  terminals T := by
    refine ⟨.inl, ?_⟩
    rintro (hT | ⟨u, hu, hgone, _⟩)
    · exact hT
    · exact absurd rfl (hgone u hu)

theorem Continues.isCancelled {b b' : Bridge} (h : b.Continues b') (flag : Option Address) :
    b'.engine.isCancelled flag = b.engine.isCancelled flag := by
  obtain ⟨calls, hcalls⟩ := h.engine
  rw [hcalls]
  rfl

/-- A step that does not end its task. -/
theorem Continues.proceed {b b' b'' : Bridge} (h : b.Continues b') {t : Task} (ht : t ∈ b'.tasks)
    (hstep : b'.Proceeds t b'') : b.Continues b'' := by
  refine ⟨?_, hstep.gates.trans h.gates, hstep.halted.trans h.halted,
    hstep.nextTask.trans h.nextTask, hstep.routers.trans h.routers,
    hstep.servers.trans h.servers, ?_, ?_, ?_⟩
  · obtain ⟨calls, hcalls⟩ := h.engine
    rcases hstep.engine with he | ⟨f, _, he⟩
    · exact ⟨calls, he.trans hcalls⟩
    · exact ⟨.asked f :: calls, by rw [he, hcalls]; rfl⟩
  · intro u hu
    rcases (hstep.mem_tasks ht u).mp hu with rfl | ⟨hu, _⟩
    · obtain ⟨v, hv, hticket, hstop⟩ := h.tasks t ht
      refine ⟨v, hv, (t.ticket_next ..).trans hticket, ?_⟩
      rw [← hstop, h.gates, h.isCancelled]
      exact b.stopOf_next t
    · exact h.tasks u hu
  · intro u hu
    exact (h.stays u hu).imp_left (hstep.mem_ids ht u.id).mpr
  · intro T
    rw [hstep.terminals, h.terminals]
    refine or_congr_right (exists_congr fun u => and_congr_right fun _ => and_congr_left fun _ => ?_)
    have hids := not_congr (hstep.mem_ids ht u.id)
    simp only [not_exists, not_and] at hids
    exact hids.symm

/-- The last step of a task. -/
theorem Continues.finish {b b' : Bridge} (h : b.Continues b') (ho : b.Orderly) {t : Task}
    (hfind : b'.task? t.id = some t) {result : Except Payload Outcome}
    (hend : t.act.end? = some result) : b.Continues (b'.finish t result) := by
  have ht := (mem_of_task? hfind).1
  obtain ⟨v, hv, hticket, hstop⟩ := h.tasks t ht
  have hends : b.stopOf v = .ends result := by
    rw [← hstop]
    exact Act.stop_of_end hend _ _
  have hid : t.id = v.id := congrArg (·.1) hticket
  refine ⟨?_, h.gates, h.halted, h.nextTask, h.routers, h.servers, ?_, ?_, ?_⟩
  · obtain ⟨calls, hcalls⟩ := h.engine
    rw [finish_engine, hcalls, Engine.noted_noted]
    exact ⟨_, rfl⟩
  · intro u hu
    exact h.tasks u (Task.mem_without.mp hu).1
  · intro u hu
    rcases h.stays u hu with ⟨w, hw, hwid⟩ | hstopped
    · by_cases hwt : w.id = t.id
      · have huv : u = v := ho.distinct.eq_of_id hv hu (hwid.symm.trans (hwt.trans hid))
        exact .inr ⟨result, huv ▸ hends⟩
      · exact .inl ⟨w, Task.mem_without.mpr ⟨hw, hwt⟩, hwid⟩
    · exact .inr hstopped
  · intro T
    have hcloses : b.closes? v =
        t.context.map fun c => b'.engine.closing c (.ofResult result) t.flag := by
      have hcontext : v.context = t.context := congrArg (·.2.2.1) hticket.symm
      have hflag : v.flag = t.flag := congrArg (·.2.2.2) hticket.symm
      rw [closes?_of_ends hends, hcontext, hflag]
      unfold Engine.closing
      rw [h.isCancelled]
    rw [finish_terminals, List.mem_append, h.terminals, ← hcloses, Option.mem_toList]
    constructor
    · rintro ((hT | ⟨u, hu, hgone, hT⟩) | hT)
      · exact .inl hT
      · exact .inr ⟨u, hu, fun w hw => hgone w (Task.mem_without.mp hw).1, hT⟩
      · exact .inr ⟨v, hv, fun w hw => hid ▸ (Task.mem_without.mp hw).2, hT⟩
    · rintro (hT | ⟨u, hu, hgone, hT⟩)
      · exact .inl (.inl hT)
      · by_cases huv : u = v
        · exact .inr (huv ▸ hT)
        · refine .inl (.inr ⟨u, hu, ?_, hT⟩)
          intro w hw hwid
          have hwt : w.id ≠ t.id := by
            intro hwt
            exact huv (ho.distinct.eq_of_id hv hu (hwid.symm.trans (hwt.trans hid)))
          exact hgone w (Task.mem_without.mpr ⟨hw, hwt⟩) hwid

theorem Goes.continues {b b' : Bridge} (h : b.Goes b') (ho : b.Orderly) : b.Continues b' := by
  obtain ⟨ids, rfl⟩ := h
  -- the steps are taken one after another, from a bridge that continues the first one
  suffices hsteps : ∀ current : Bridge, current.Orderly → b.Continues current →
      b.Continues (ids.foldl advance current) from hsteps b ho (.refl b)
  induction ids with
  | nil => exact fun _ _ hcontinues => hcontinues
  | cons id rest ih =>
    intro current hcurrent hcontinues
    refine ih _ ((current.leads_advance id).orderly hcurrent) ?_
    rcases current.advance_cases id with hself | ⟨t, result, hfind, hbegun, hend⟩ | ⟨t, hfind, hgoes⟩
    · rw [hself]
      exact hcontinues
    · rw [advance_finish hfind hbegun hend]
      obtain ⟨-, rfl⟩ := mem_of_task? hfind
      exact hcontinues.finish ho hfind hend
    · exact hcontinues.proceed (mem_of_task? hfind).1
        (advance_proceeds hcurrent.distinct hfind hgoes)

end Bridge
end RequestBridge
