import RequestBridge.Proofs.Bridge.Rest

/-! A drive takes every task to its rest.

Each time that a task is run it ends, waits, or has fewer pauses left than before
(`runTask_pauses`), so the rounds of a drive are enough for all of them (`drive_waiting`). What
is left after a drive, and what has ended in it, follows from where each task comes to rest. -/
namespace RequestBridge.Bridge

/-- A step of one task leaves the others where they are. -/
theorem mem_advance {b : Bridge} (ho : b.Orderly) (id : TaskId) {u : Task} (hu : u.id ≠ id) :
    u ∈ (b.advance id).tasks ↔ u ∈ b.tasks := by
  rcases b.advance_cases id with hself | ⟨t, result, hfind, hbegun, hend⟩ | ⟨t, hfind, hgoes⟩
  · rw [hself]
  · obtain ⟨-, rfl⟩ := mem_of_task? hfind
    rw [advance_finish hfind hbegun hend]
    exact Task.mem_without.trans (and_iff_left hu)
  · obtain ⟨ht, rfl⟩ := mem_of_task? hfind
    have hne : u ≠ t.next b.gates (b.engine.isCancelled t.flag) := by
      rintro rfl
      exact hu (t.id_next ..)
    rw [(advance_proceeds ho.distinct hfind hgoes).mem_tasks ht, or_iff_right hne, and_iff_left hu]

theorem orderly_advance {b : Bridge} (ho : b.Orderly) (id : TaskId) : (b.advance id).Orderly :=
  (b.leads_advance id).orderly ho

theorem mem_follow {b : Bridge} (ho : b.Orderly) (id : TaskId) (flag : Option Address)
    (act : Act Outcome) {u : Task} (hu : u.id ≠ id) :
    u ∈ (b.follow id flag act).tasks ↔ u ∈ b.tasks := by
  have hstep := mem_advance ho id hu
  have honward := orderly_advance ho id
  induction act generalizing b with
  | done value => exact hstep
  | panic payload => exact hstep
  | mark text rest ih =>
    exact (ih honward (mem_advance honward id hu) (orderly_advance honward id)).trans hstep
  | log event rest ih =>
    exact (ih honward (mem_advance honward id hu) (orderly_advance honward id)).trans hstep
  | wait gate rest ih =>
    unfold follow
    split
    · exact (ih honward (mem_advance honward id hu) (orderly_advance honward id)).trans hstep
    · exact hstep
  | pause rest ih => exact hstep
  | poll rest ih =>
    exact (ih _ honward (mem_advance honward id hu) (orderly_advance honward id)).trans hstep
  | share rest ih =>
    exact (ih honward (mem_advance honward id hu) (orderly_advance honward id)).trans hstep

/-- A task that has gone on along its chain. -/
theorem task?_advance {b : Bridge} (ho : b.Orderly) {t : Task} (hfind : b.task? t.id = some t)
    (hend : t.act.end? = none) (rest : Act Outcome)
    (hnext : t.next b.gates (b.engine.isCancelled t.flag) =
      { t with act := rest, waiting := none }) :
    (b.advance t.id).task? t.id = some { t with act := rest, waiting := none } := by
  have hstep := advance_proceeds ho.distinct hfind fun _ => hend
  have hmem : { t with act := rest, waiting := none } ∈ (b.advance t.id).tasks :=
    (hstep.mem_tasks (mem_of_task? hfind).1 _).mpr (.inl hnext.symm)
  exact task?_of_mem (orderly_advance ho t.id).distinct hmem

theorem not_mem_advance {b : Bridge} {t : Task} (hfind : b.task? t.id = some t)
    (hbegun : t.begun = true) {result : Except Payload Outcome} (hend : t.act.end? = some result)
    {u : Task} (hid : u.id = t.id) : u ∉ (b.advance t.id).tasks := by
  rw [advance_finish hfind hbegun hend]
  exact fun hmem => (Task.mem_without.mp hmem).2 hid

/-- A task that comes to a closed gate waits there. -/
theorem waiting_advance {b : Bridge} (ho : b.Orderly) {t : Task} (hfind : b.task? t.id = some t)
    (hbegun : t.begun = true) {gate : String} {rest : Act Outcome} (hact : t.act = .wait gate rest)
    (hclosed : gate ∉ b.gates) {u : Task} (hu : u ∈ (b.advance t.id).tasks) (hid : u.id = t.id) :
    u.waiting = some gate := by
  have hstep := advance_proceeds ho.distinct hfind fun _ => by rw [hact]; rfl
  rcases (hstep.mem_tasks (mem_of_task? hfind).1 u).mp hu with rfl | ⟨_, hne⟩
  · simp [Task.next, hbegun, hact, hclosed]
  · exact absurd hid hne

/-- A task that has been followed and is ready again has paused. -/
theorem follow_pauses {b : Bridge} (ho : b.Orderly) {act : Act Outcome} {t : Task}
    (hfind : b.task? t.id = some t) (hbegun : t.begun = true) (hact : t.act = act) {u : Task}
    (hu : u ∈ (b.follow t.id t.flag act).tasks) (hid : u.id = t.id) (hready : u.waiting = none) :
    u.act.pauses < act.pauses := by
  induction act generalizing b t with
  | done value => exact absurd hu (not_mem_advance hfind hbegun (by rw [hact]; rfl) hid)
  | panic payload => exact absurd hu (not_mem_advance hfind hbegun (by rw [hact]; rfl) hid)
  | mark text rest ih =>
    have hthere := task?_advance ho hfind (by rw [hact]; rfl) rest
      (by simp [Task.next, hbegun, hact])
    exact ih (t := { t with act := rest, waiting := none }) (orderly_advance ho t.id) hthere
      hbegun rfl hu hid
  | log event rest ih =>
    have hthere := task?_advance ho hfind (by rw [hact]; rfl) rest
      (by simp [Task.next, hbegun, hact])
    exact ih (t := { t with act := rest, waiting := none }) (orderly_advance ho t.id) hthere
      hbegun rfl hu hid
  | wait gate rest ih =>
    unfold follow at hu
    split at hu
    · next hopen =>
      have hthere := task?_advance ho hfind (by rw [hact]; rfl) rest
        (by simp [Task.next, hbegun, hact, hopen])
      exact ih (t := { t with act := rest, waiting := none }) (orderly_advance ho t.id) hthere
        hbegun rfl hu hid
    · next hclosed =>
      rw [waiting_advance ho hfind hbegun hact hclosed hu hid] at hready
      cases hready
  | pause rest ih =>
    have hstep := advance_proceeds ho.distinct hfind fun _ => by rw [hact]; rfl
    rcases (hstep.mem_tasks (mem_of_task? hfind).1 u).mp hu with rfl | ⟨_, hne⟩
    · simp [Task.next, hbegun, hact, Act.pauses]
    · exact absurd hid hne
  | poll rest ih =>
    have hthere := task?_advance ho hfind (by rw [hact]; rfl)
      (rest (b.engine.isCancelled t.flag)) (by simp [Task.next, hbegun, hact])
    have hlt := ih _
      (t := { t with act := rest (b.engine.isCancelled t.flag), waiting := none })
      (orderly_advance ho t.id) hthere hbegun rfl hu hid
    refine Nat.lt_of_lt_of_le hlt ?_
    cases b.engine.isCancelled t.flag
    · exact Nat.le_max_right ..
    · exact Nat.le_max_left ..
  | share rest ih =>
    have hthere := task?_advance ho hfind (by rw [hact]; rfl) rest
      (by simp [Task.next, hbegun, hact])
    exact ih (t := { t with act := rest, waiting := none }) (orderly_advance ho t.id) hthere
      hbegun rfl hu hid

theorem mem_runTask {b : Bridge} (ho : b.Orderly) (id : TaskId) {u : Task} (hu : u.id ≠ id) :
    u ∈ (b.runTask id).tasks ↔ u ∈ b.tasks := by
  unfold runTask
  split
  · rfl
  · next t _ =>
    split
    · exact mem_follow ho id _ _ hu
    · exact (mem_follow (orderly_advance ho id) id _ _ hu).trans (mem_advance ho id hu)

/-- A task that has been run and is ready again was ready before, and has paused. -/
theorem runTask_pauses {b : Bridge} (ho : b.Orderly) (hp : b.Patient) {id : TaskId} {u : Task}
    (hu : u ∈ (b.runTask id).tasks) (hid : u.id = id) (hready : u.waiting = none) :
    ∃ t ∈ b.tasks, t.id = id ∧ t.waiting = none ∧ u.act.pauses < t.act.pauses := by
  unfold runTask at hu
  split at hu
  · next hfind => exact absurd (task?_of_mem ho.distinct hu) (by rw [hid, hfind]; simp)
  next t hfind =>
  obtain ⟨ht, rfl⟩ := mem_of_task? hfind
  refine ⟨t, ht, rfl, ?_, ?_⟩
  · cases hwaiting : t.waiting with
    | none => rfl
    | some gate =>
      obtain ⟨hbegun, hclosed, rest, hact⟩ := hp t ht gate hwaiting
      rw [if_pos hbegun, hact, follow, if_neg hclosed] at hu
      rw [waiting_advance ho hfind hbegun hact hclosed hu hid] at hready
      cases hready
  · split at hu
    · next hbegun => exact follow_pauses ho hfind hbegun rfl hu hid hready
    · next hbegun =>
      have hstep := advance_proceeds ho.distinct hfind fun h => absurd h hbegun
      have hmem : { t with begun := true } ∈ (b.advance t.id).tasks :=
        (hstep.mem_tasks ht _).mpr (.inl (by simp [Task.next, hbegun]))
      have hthere := task?_of_mem (orderly_advance ho t.id).distinct hmem
      exact follow_pauses (t := { t with begun := true }) (orderly_advance ho t.id) hthere rfl rfl
        hu hid hready

theorem Goes.orderly {b b' : Bridge} (h : b.Goes b') (ho : b.Orderly) : b'.Orderly :=
  h.leads.orderly ho

theorem Goes.patient {b b' : Bridge} (h : b.Goes b') (ho : b.Orderly) (hp : b.Patient) :
    b'.Patient := by
  obtain ⟨_, hos, _⟩ := h.leads
  exact hos.patient ho hp

/-- After a round, every task that is ready belongs to it and has paused in it. -/
theorem round_pauses {b : Bridge} (ho : b.Orderly) (hp : b.Patient) (round : List TaskId) (n : Nat)
    (ids : List TaskId)
    (h : ∀ t ∈ b.tasks, t.waiting = none →
      t.id ∈ round ∧ (t.id ∈ ids ∧ t.act.pauses ≤ n ∨ t.act.pauses < n)) :
    ∀ t ∈ (ids.foldl runTask b).tasks, t.waiting = none → t.id ∈ round ∧ t.act.pauses < n := by
  induction ids generalizing b with
  | nil =>
    intro t ht hready
    exact (h t ht hready).imp_right fun hor => hor.resolve_left fun hand => nomatch hand.1
  | cons id rest ih =>
    have hgoes := b.goes_runTask id
    refine ih (hgoes.orderly ho) (hgoes.patient ho hp) ?_
    intro u hu hready
    by_cases hid : u.id = id
    · obtain ⟨t, ht, htid, htready, hlt⟩ := runTask_pauses ho hp hu hid hready
      obtain ⟨hmem, hpauses⟩ := h t ht htready
      rw [hid, ← htid]
      refine ⟨hmem, .inr ?_⟩
      rcases hpauses with ⟨_, hle⟩ | hless
      · exact Nat.lt_of_lt_of_le hlt hle
      · exact Nat.lt_trans hlt hless
    · obtain ⟨hmem, hpauses⟩ := h u ((mem_runTask ho id hid).mp hu) hready
      refine ⟨hmem, hpauses.imp_left ?_⟩
      rintro ⟨hin, hle⟩
      exact ⟨(List.mem_cons.mp hin).resolve_left hid, hle⟩

/-- Rounds take every task to its rest, if there are more of them than any task that is ready
has pauses left. -/
theorem runRounds_waiting {b : Bridge} (ho : b.Orderly) (hp : b.Patient) (round : List TaskId)
    (rounds : Nat)
    (hround : ∀ t ∈ b.tasks, t.waiting = none → t.id ∈ round ∧ t.act.pauses < rounds) :
    ∀ t ∈ (b.runRounds round rounds).tasks, t.waiting ≠ none := by
  induction rounds generalizing b round with
  | zero =>
    intro t ht hready
    exact Nat.not_lt_zero _ (hround t ht hready).2
  | succ n ih =>
    have hgoes := goes_round round b
    have hafter := round_pauses ho hp round n round fun t ht hready =>
      ⟨(hround t ht hready).1,
        .inl ⟨(hround t ht hready).1, Nat.le_of_lt_succ (hround t ht hready).2⟩⟩
    refine ih (hgoes.orderly ho) (hgoes.patient ho hp) _ ?_
    intro t ht hready
    obtain ⟨hmem, hlt⟩ := hafter t ht hready
    refine ⟨List.mem_reverse.mpr (List.mem_filter.mpr ⟨hmem, ?_⟩), hlt⟩
    rw [canRun, task?_of_mem (hgoes.orderly ho).distinct ht]
    simp [hready]

theorem le_foldl_max {ns : List Nat} {n : Nat} (h : n ∈ ns) : n ≤ ns.foldl max 0 :=
  (List.max?_le_iff List.max?_cons').mp (Nat.le_refl _) n (List.mem_cons_of_mem 0 h)

/-- A drive leaves no task ready. -/
theorem drive_waiting {b : Bridge} (ho : b.Orderly) (hp : b.Patient) :
    ∀ t ∈ b.drive.tasks, t.waiting ≠ none := by
  refine runRounds_waiting ho hp _ _ ?_
  intro t ht hready
  have hmem : t ∈ b.tasks.filter (·.waiting.isNone) :=
    List.mem_filter.mpr ⟨ht, by rw [hready]; rfl⟩
  refine ⟨List.mem_map.mpr ⟨t, hmem, rfl⟩, Nat.lt_succ_of_le ?_⟩
  exact le_foldl_max (List.mem_map.mpr ⟨t, hmem, rfl⟩)

/-- A task that is left after a drive is where it comes to rest. -/
theorem rests_drive {b : Bridge} (ho : b.Orderly) (hp : b.Patient) {t u : Task}
    (ht : t ∈ b.drive.tasks) (hticket : t.ticket = u.ticket) (hstop : b.stopOf t = b.stopOf u) :
    ∃ gate rest, b.stopOf u = .waits gate rest ∧
      t = { u with begun := true, act := .wait gate rest, waiting := some gate } := by
  have hcontinues := b.goes_drive.continues ho
  have hpatient := b.goes_drive.patient ho hp t ht
  obtain ⟨gate, hwaiting⟩ := Option.ne_none_iff_exists'.mp (drive_waiting ho hp t ht)
  obtain ⟨rest, hact, hwaits⟩ := Task.stop_of_waiting hpatient hwaiting (b.engine.isCancelled t.flag)
  have hbegun := (hpatient gate hwaiting).1
  refine ⟨gate, rest, ?_, ?_⟩
  · rw [← hstop, ← hwaits, hcontinues.gates]
    rfl
  · obtain ⟨id, route, context, flag, act, begun, waiting⟩ := t
    cases hticket
    cases hwaiting
    cases hact
    cases hbegun
    rfl

/-- A drive takes every task to where it comes to rest, and no task elsewhere. -/
theorem mem_drive {b : Bridge} (ho : b.Orderly) (hp : b.Patient) (t : Task) :
    t ∈ b.drive.tasks ↔ ∃ u ∈ b.tasks, ∃ gate rest, b.stopOf u = .waits gate rest ∧
      t = { u with begun := true, act := .wait gate rest, waiting := some gate } := by
  have hcontinues := b.goes_drive.continues ho
  constructor
  · intro ht
    obtain ⟨u, hu, hticket, hstop⟩ := hcontinues.tasks t ht
    exact ⟨u, hu, rests_drive ho hp ht hticket hstop⟩
  · rintro ⟨u, hu, gate, rest, hwaits, rfl⟩
    rcases hcontinues.stays u hu with ⟨t, ht, hid⟩ | ⟨result, hends⟩
    · obtain ⟨v, hv, hticket, hstop⟩ := hcontinues.tasks t ht
      have hvid : v.id = u.id := (congrArg (·.1) hticket.symm).trans hid
      obtain rfl := ho.distinct.eq_of_id hu hv hvid
      obtain ⟨gate', rest', hwaits', rfl⟩ := rests_drive ho hp ht hticket hstop
      cases hwaits.symm.trans hwaits'
      exact ht
    · cases hends.symm.trans hwaits

/-- The terminal actions after a drive are those before it, and those of the tasks that come to
their ends in it. -/
theorem terminals_drive {b : Bridge} (ho : b.Orderly) (hp : b.Patient) (T : Terminal) :
    T ∈ b.drive.engine.terminals ↔
      T ∈ b.engine.terminals ∨ ∃ u ∈ b.tasks, b.closes? u = some T := by
  rw [(b.goes_drive.continues ho).terminals]
  refine or_congr_right (exists_congr fun u => and_congr_right fun hu => and_iff_right_of_imp ?_)
  -- a task that ends is not among those that are left, which wait
  intro hcloses t ht hid
  obtain ⟨v, hv, gate, rest, hwaits, rfl⟩ := (mem_drive ho hp t).mp ht
  obtain rfl := ho.distinct.eq_of_id hu hv hid
  rw [closes?, hwaits] at hcloses
  cases hcloses

end RequestBridge.Bridge
