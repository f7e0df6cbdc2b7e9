import RequestBridge.Bridge.Tasks
import RequestBridge.Proofs.Dispatch.Admission
import Mathlib.Data.List.Nodup

/-! One step of one task.

A step either ends its task or takes it to its next state (`advance_cases`). Which state that is
depends on the task, on the gates and on whether its own peer has given up (`Task.next`), and
on nothing else on the bridge. -/
namespace RequestBridge

/-- The result of a chain that has come to its end. -/
def Act.end? {α : Type} : Act α → Option (Except Payload α)
  | .done value => some (.ok value)
  | .panic payload => some (.error payload)
  | _ => none

namespace Task

/-- The task after one step that does not end it. -/
def next (t : Task) (gates : List String) (gone : Bool) : Task :=
  if t.begun then
    match t.act with
    | .done _ => t
    | .panic _ => t
    | .mark _ rest => { t with act := rest, waiting := none }
    | .log _ rest => { t with act := rest, waiting := none }
    | .wait gate rest =>
      if gate ∈ gates then { t with act := rest, waiting := none }
      else { t with waiting := some gate }
    | .pause rest => { t with act := rest, waiting := none }
    | .poll rest => { t with act := rest gone, waiting := none }
    | .share rest => { t with act := rest, waiting := none }
  else { t with begun := true }

/-- What of a task stays as it is while the task goes on. -/
def ticket (t : Task) : TaskId × UInt16 × Option Address × Option Address :=
  (t.id, t.route, t.context, t.flag)

theorem ticket_next (t : Task) (gates : List String) (gone : Bool) :
    (t.next gates gone).ticket = t.ticket := by
  unfold next
  split
  · split <;> first | rfl | (split <;> rfl)
  · rfl

theorem id_next (t : Task) (gates : List String) (gone : Bool) : (t.next gates gone).id = t.id :=
  congrArg (·.1) (t.ticket_next gates gone)

/-- The task once the gate is open: it waits there no more. -/
def through (t : Task) (gate : String) : Task :=
  if t.waiting == some gate then { t with waiting := none } else t

theorem ticket_through (t : Task) (gate : String) : (t.through gate).ticket = t.ticket := by
  unfold through
  split <;> rfl

/-! ### Tasks in a list -/

/-- The list with another task in the place of the one with the same number. -/
def replaced (ts : List Task) (t : Task) : List Task := ts.map fun u => if u.id = t.id then t else u

/-- The list without the task with a number. -/
def without (ts : List Task) (id : TaskId) : List Task := ts.filter (·.id != id)

/-- No two tasks have the same number. -/
def Distinct (ts : List Task) : Prop := (ts.map (·.id)).Nodup

theorem Distinct.eq_of_id {ts : List Task} (h : Distinct ts) {t u : Task} (ht : t ∈ ts) (hu : u ∈ ts)
    (hid : u.id = t.id) : u = t :=
  List.inj_on_of_nodup_map h hu ht hid

theorem mem_without {ts : List Task} {id : TaskId} {t : Task} :
    t ∈ without ts id ↔ t ∈ ts ∧ t.id ≠ id := by
  simp [without, List.mem_filter]

theorem without_eq_self {ts : List Task} {id : TaskId} (h : ∀ t ∈ ts, t.id ≠ id) :
    without ts id = ts := by
  refine List.filter_eq_self.mpr ?_
  intro t ht
  exact bne_iff_ne.mpr (h t ht)

/-- What a task shares with the one that it replaces is not changed in the list. -/
theorem map_replaced {β : Type} {ts : List Task} (hd : Distinct ts) {t t' : Task} (ht : t ∈ ts)
    (hid : t'.id = t.id) (f : Task → β) (hf : f t' = f t) : (replaced ts t').map f = ts.map f := by
  unfold replaced
  rw [List.map_map]
  refine List.map_congr_left ?_
  intro u hu
  by_cases h : u.id = t'.id
  · have hut : u = t := hd.eq_of_id ht hu (h.trans hid)
    rw [Function.comp_apply, if_pos h, hf, hut]
  · simp only [Function.comp_apply, h, if_false]

theorem replaced_self {ts : List Task} (hd : Distinct ts) {t : Task} (ht : t ∈ ts) :
    replaced ts t = ts := by
  have h := map_replaced hd ht rfl (fun u => u) rfl
  rwa [List.map_id', List.map_id'] at h

/-- A task in a list, and the others. -/
theorem perm_cons_without {ts : List Task} (hd : Distinct ts) {t : Task} (ht : t ∈ ts) :
    ts.Perm (t :: without ts t.id) := by
  induction ts with
  | nil => cases ht
  | cons u rest ih =>
    obtain ⟨hu, hrest⟩ := List.nodup_cons.mp hd
    have hne : ∀ v ∈ rest, v.id ≠ u.id := by
      intro v hv hid
      exact hu (List.mem_map.mpr ⟨v, hv, hid⟩)
    rcases List.mem_cons.mp ht with rfl | ht
    · have hwithout : without (t :: rest) t.id = rest := by
        unfold without
        rw [List.filter_cons_of_neg (by simp)]
        exact without_eq_self hne
      rw [hwithout]
    · have hut : u.id ≠ t.id := fun h => hne t ht h.symm
      have hwithout : without (u :: rest) t.id = u :: without rest t.id := by
        unfold without
        exact List.filter_cons_of_pos (by simp [hut])
      rw [hwithout]
      exact ((ih hrest ht).cons u).trans (.swap t u _)

/-- A task that goes on behind all others is still one of the same tasks. -/
theorem perm_replaced {ts : List Task} (hd : Distinct ts) {t t' : Task} (ht : t ∈ ts)
    (hid : t'.id = t.id) : (without ts t.id ++ [t']).Perm (replaced ts t') := by
  have hdt : Distinct (replaced ts t') := by
    unfold Distinct
    rw [map_replaced hd ht hid (·.id) hid]
    exact hd
  have ht' : t' ∈ replaced ts t' := List.mem_map.mpr ⟨t, ht, by simp [hid]⟩
  have hsame : without (replaced ts t') t'.id = without ts t.id := by
    unfold without replaced
    rw [List.filter_map, hid]
    refine (List.map_congr_left ?_).trans (List.map_id _) |>.trans (List.filter_congr ?_)
    · intro u hu
      have hu' := (List.mem_filter.mp hu).2
      by_cases h : u.id = t.id
      · simp [Function.comp, h, hid] at hu'
      · simp [h]
    · intro u _
      by_cases h : u.id = t.id <;> simp [Function.comp, h, hid]
  have hperm := perm_cons_without hdt ht'
  rw [hsame] at hperm
  exact (List.perm_append_singleton t' _).trans hperm.symm

end Task

namespace Bridge

/-! ### Steps of a chain -/

theorem mem_of_task? {b : Bridge} {id : TaskId} {t : Task} (h : b.task? id = some t) :
    t ∈ b.tasks ∧ t.id = id := by
  refine ⟨List.mem_of_find?_eq_some h, ?_⟩
  have hid := List.find?_some h
  exact beq_iff_eq.mp hid

theorem task?_of_mem {b : Bridge} (hd : Task.Distinct b.tasks) {t : Task} (ht : t ∈ b.tasks) :
    b.task? t.id = some t := by
  cases hfind : b.task? t.id with
  | none =>
    have hnone := List.find?_eq_none.mp hfind t ht
    exact absurd (beq_self_eq_true t.id) hnone
  | some u =>
    obtain ⟨hu, hid⟩ := mem_of_task? hfind
    rw [hd.eq_of_id ht hu hid]

/-- A bridge on which a task has taken a step that has not ended it. The task may have asked
whether its peer has given up, or given away a copy of its cancellation token. -/
structure Proceeds (b : Bridge) (t : Task) (b' : Bridge) : Prop where
  tasks : b'.tasks.Perm (Task.replaced b.tasks (t.next b.gates (b.engine.isCancelled t.flag)))
  engine : b'.engine = b.engine ∨ ∃ f, t.flag = some f ∧ b'.engine = b.engine.record (.asked f)
  kept : b'.kept = b.kept ∨ ∃ f, t.flag = some f ∧ b'.kept = f :: b.kept
  metrics : b'.metrics = if t.begun then b.metrics else b.metrics.enter
  nextTask : b'.nextTask = b.nextTask
  gates : b'.gates = b.gates
  halted : b'.halted = b.halted
  routers : b'.routers = b.routers
  servers : b'.servers = b.servers

variable {b : Bridge} {t : Task}

/-- A step that only goes on along the chain. -/
theorem proceeds_resume {rest : Act Outcome} (hbegun : t.begun = true)
    (hnext : t.next b.gates (b.engine.isCancelled t.flag) = { t with act := rest, waiting := none }) :
    b.Proceeds t (b.resume t rest) where
  tasks := by rw [hnext]; exact .refl _
  engine := .inl rfl
  kept := .inl rfl
  metrics := (if_pos hbegun).symm
  nextTask := rfl
  gates := rfl
  halted := rfl
  routers := rfl
  servers := rfl

theorem suspend_tasks (gate : String) (hd : Task.Distinct b.tasks) (ht : t ∈ b.tasks) :
    (b.suspend t gate).tasks.Perm (Task.replaced b.tasks { t with waiting := some gate }) := by
  unfold suspend
  split
  · next hwaiting =>
    have hself : ({ t with waiting := some gate } : Task) = t := by rw [← hwaiting]
    rw [hself, Task.replaced_self hd ht]
  · exact Task.perm_replaced hd ht rfl

theorem proceeds_suspend {gate : String} (hd : Task.Distinct b.tasks) (ht : t ∈ b.tasks)
    (hbegun : t.begun = true)
    (hnext : t.next b.gates (b.engine.isCancelled t.flag) = { t with waiting := some gate }) :
    b.Proceeds t (b.suspend t gate) := by
  have htasks := suspend_tasks (b := b) gate hd ht
  rw [← hnext] at htasks
  unfold suspend at htasks ⊢
  by_cases hwaiting : t.waiting = some gate
  · rw [if_pos hwaiting] at htasks ⊢
    exact ⟨htasks, .inl rfl, .inl rfl, (if_pos hbegun).symm, rfl, rfl, rfl, rfl, rfl⟩
  · rw [if_neg hwaiting] at htasks ⊢
    exact ⟨htasks, .inl rfl, .inl rfl, (if_pos hbegun).symm, rfl, rfl, rfl, rfl, rfl⟩

theorem proceeds_perform (hd : Task.Distinct b.tasks) (ht : t ∈ b.tasks) (hbegun : t.begun = true)
    (hend : t.act.end? = none) : b.Proceeds t (b.perform t t.act) := by
  cases hact : t.act with
  | done value =>
    rw [hact] at hend
    cases hend
  | panic payload =>
    rw [hact] at hend
    cases hend
  | mark text rest =>
    have h : b.Proceeds t (b.resume t rest) := proceeds_resume hbegun (by simp [Task.next, hbegun, hact])
    exact ⟨h.tasks, h.engine, h.kept, h.metrics, rfl, rfl, rfl, rfl, rfl⟩
  | log event rest =>
    have h : b.Proceeds t (b.resume t rest) := proceeds_resume hbegun (by simp [Task.next, hbegun, hact])
    exact ⟨h.tasks, h.engine, h.kept, h.metrics, rfl, rfl, rfl, rfl, rfl⟩
  | wait gate rest =>
    show b.Proceeds t (if gate ∈ b.gates then b.resume t rest else b.suspend t gate)
    split
    · next hopen => exact proceeds_resume hbegun (by simp [Task.next, hbegun, hact, hopen])
    · next hclosed => exact proceeds_suspend hd ht hbegun (by simp [Task.next, hbegun, hact, hclosed])
  | pause rest => exact proceeds_resume hbegun (by simp [Task.next, hbegun, hact])
  | poll rest =>
    have h : b.Proceeds t (b.resume t (rest (b.engine.isCancelled t.flag))) :=
      proceeds_resume hbegun (by simp [Task.next, hbegun, hact])
    cases hflag : t.flag with
    | none =>
      rw [hflag] at h
      rw [perform, hflag]
      exact h
    | some f =>
      rw [hflag] at h
      rw [perform, hflag]
      exact ⟨h.tasks, .inr ⟨f, hflag, rfl⟩, h.kept, h.metrics, rfl, rfl, rfl, rfl, rfl⟩
  | share rest =>
    have h : b.Proceeds t (b.resume t rest) := proceeds_resume hbegun (by simp [Task.next, hbegun, hact])
    refine ⟨h.tasks, h.engine, ?_, h.metrics, rfl, rfl, rfl, rfl, rfl⟩
    cases hflag : t.flag with
    | none => exact .inl (by simp [perform, hflag])
    | some f => exact .inr ⟨f, rfl, by simp [perform, hflag]⟩

theorem proceeds_embark (hbegun : t.begun = false) : b.Proceeds t (b.embark t) where
  tasks := by
    have hnext : t.next b.gates (b.engine.isCancelled t.flag) = { t with begun := true } := by
      simp [Task.next, hbegun]
    rw [hnext]
    exact .refl _
  engine := .inl rfl
  kept := .inl rfl
  metrics := by rw [hbegun]; rfl
  nextTask := rfl
  gates := rfl
  halted := rfl
  routers := rfl
  servers := rfl

/-- A step that does not end its task takes it to its next state. -/
theorem advance_proceeds {id : TaskId} (hd : Task.Distinct b.tasks) (hfind : b.task? id = some t)
    (hgoes : t.begun = true → t.act.end? = none) : b.Proceeds t (b.advance id) := by
  have ht := (mem_of_task? hfind).1
  rw [advance, hfind]
  dsimp only
  cases hbegun : t.begun with
  | false => exact proceeds_embark hbegun
  | true => exact proceeds_perform hd ht hbegun (hgoes hbegun)

/-- The last step of a task. -/
theorem advance_finish {id : TaskId} {result : Except Payload Outcome}
    (hfind : b.task? id = some t) (hbegun : t.begun = true) (hend : t.act.end? = some result) :
    b.advance id = b.finish t result := by
  rw [advance, hfind]
  dsimp only
  rw [if_pos hbegun]
  cases hact : t.act <;> rw [hact] at hend <;> cases hend <;> rfl

/-- A step of a task that is not there does nothing, and any other step ends its task or does
not. -/
theorem advance_cases (b : Bridge) (id : TaskId) :
    b.advance id = b ∨
    (∃ t result, b.task? id = some t ∧ t.begun = true ∧ t.act.end? = some result) ∨
    ∃ t, b.task? id = some t ∧ (t.begun = true → t.act.end? = none) := by
  cases hfind : b.task? id with
  | none => exact .inl (by rw [advance, hfind])
  | some t =>
    cases hbegun : t.begun with
    | false => exact .inr (.inr ⟨t, rfl, fun h => by rw [hbegun] at h; cases h⟩)
    | true =>
      cases hend : t.act.end? with
      | none => exact .inr (.inr ⟨t, rfl, fun _ => hend⟩)
      | some result => exact .inr (.inl ⟨t, result, rfl, hbegun, hend⟩)

/-- An open gate lets those through that waited at it, and changes no one else. -/
theorem openGate_tasks (b : Bridge) (gate : String) :
    (b.openGate gate).tasks.Perm (b.tasks.map (·.through gate)) := by
  have hstay : b.tasks.filter (fun t : Task => !(t.waiting == some gate)) =
      (b.tasks.filter (fun t : Task => !(t.waiting == some gate))).map (·.through gate) := by
    refine (List.map_id' _).symm.trans (List.map_congr_left ?_)
    intro t ht
    have hnot := (List.mem_filter.mp ht).2
    simp only [Bool.not_eq_true'] at hnot
    simp [Task.through, hnot]
  have hgo : (b.tasks.filter (fun t : Task => t.waiting == some gate)).map
        (fun t : Task => { t with waiting := none }) =
      (b.tasks.filter (fun t : Task => t.waiting == some gate)).map (·.through gate) := by
    refine List.map_congr_left ?_
    intro t ht
    have hthere := (List.mem_filter.mp ht).2
    simp only [Task.through, hthere, if_true]
  show (b.tasks.filter (fun t : Task => !(t.waiting == some gate)) ++
    (b.tasks.filter (fun t : Task => t.waiting == some gate)).map
      (fun t : Task => { t with waiting := none })).Perm _
  rw [hstay, hgo, ← List.map_append]
  exact (List.perm_append_comm.trans (List.filter_append_perm _ b.tasks)).map _

/-! ### Steps in a row -/

/-- The one bridge becomes the other by steps of tasks alone. -/
def Goes (b b' : Bridge) : Prop := ∃ ids : List TaskId, b' = ids.foldl advance b

theorem Goes.refl (b : Bridge) : b.Goes b := ⟨[], rfl⟩

theorem Goes.trans {b b' b'' : Bridge} (h : b.Goes b') (h' : b'.Goes b'') : b.Goes b'' := by
  obtain ⟨ids, rfl⟩ := h
  obtain ⟨ids', rfl⟩ := h'
  exact ⟨ids ++ ids', (List.foldl_append ..).symm⟩

theorem goes_advance (b : Bridge) (id : TaskId) : b.Goes (b.advance id) := ⟨[id], rfl⟩

theorem goes_follow (b : Bridge) (id : TaskId) (flag : Option Address) (act : Act Outcome) :
    b.Goes (b.follow id flag act) := by
  induction act generalizing b with
  | done value => exact b.goes_advance id
  | panic payload => exact b.goes_advance id
  | mark text rest ih => exact (b.goes_advance id).trans (ih _)
  | log event rest ih => exact (b.goes_advance id).trans (ih _)
  | wait gate rest ih =>
    unfold follow
    split
    · exact (b.goes_advance id).trans (ih _)
    · exact b.goes_advance id
  | pause rest ih => exact b.goes_advance id
  | poll rest ih => exact (b.goes_advance id).trans (ih _ _)
  | share rest ih => exact (b.goes_advance id).trans (ih _)

theorem goes_runTask (b : Bridge) (id : TaskId) : b.Goes (b.runTask id) := by
  unfold runTask
  split
  · exact .refl b
  · next t _ =>
    split
    · exact b.goes_follow id _ _
    · exact (b.goes_advance id).trans (goes_follow _ id _ _)

theorem goes_round (ids : List TaskId) (b : Bridge) : b.Goes (ids.foldl runTask b) := by
  induction ids generalizing b with
  | nil => exact .refl b
  | cons id rest ih => exact (b.goes_runTask id).trans (ih _)

theorem goes_runRounds (b : Bridge) (round : List TaskId) (rounds : Nat) :
    b.Goes (b.runRounds round rounds) := by
  induction rounds generalizing b round with
  | zero => exact .refl b
  | succ n ih => exact (goes_round round b).trans (ih _ _)

theorem goes_drive (b : Bridge) : b.Goes b.drive := b.goes_runRounds _ _

end Bridge
end RequestBridge
