import RequestBridge.Proofs.Bridge.Conservation

/-! Every flag is freed once, and is not asked after.

A flag belongs to the task of its request and to the copies of the cancellation token that the
chain has given away. It is freed when the last of them is gone, and with it goes the last one
who could ask for it (`Accounted`). -/
namespace RequestBridge

/-- No flag is asked after it was freed; the latest call comes first. -/
def Call.Guarded (calls : List Call) : Prop :=
  calls.Pairwise fun later earlier => ∀ f, later = .asked f → earlier ≠ .flagFreed f

theorem Call.guarded_append {calls earlier : List Call} :
    Guarded (calls ++ earlier) ↔ Guarded calls ∧ Guarded earlier ∧
      ∀ f, .asked f ∈ calls → .flagFreed f ∉ earlier := by
  unfold Guarded
  rw [List.pairwise_append]
  refine and_congr_right fun _ => and_congr_right fun _ => ?_
  constructor
  · intro h f hasked hfreed
    exact h _ hasked _ hfreed f rfl rfl
  · rintro h later hlater call hcall f rfl rfl
    exact h f hlater hcall

theorem Call.guarded_of_not_asked {calls : List Call} (h : ∀ f, .asked f ∉ calls) :
    Guarded calls := by
  refine List.pairwise_of_forall_mem_list ?_
  rintro later hlater earlier _ f rfl
  exact absurd hlater (h f)

theorem Call.guarded_of_not_freed {calls : List Call} (h : ∀ f, .flagFreed f ∉ calls) :
    Guarded calls := by
  refine List.pairwise_of_forall_mem_list ?_
  rintro later _ earlier hearlier f _ rfl
  exact h f hearlier

/-- Calls that are not about requests do not matter. -/
theorem Engine.guarded_dealings {e : Engine} (h : Call.Guarded e.dealings) :
    Call.Guarded e.journal := by
  refine (List.pairwise_filter.mp h).imp ?_
  rintro later earlier himp f rfl rfl
  exact himp rfl rfl f rfl rfl

theorem Engine.flagFreedCount_eq (e : Engine) (f : Address) :
    e.flagFreedCount f = e.dealings.count (.flagFreed f) := by
  rw [flagFreedCount, dealings, List.count, List.countP_filter]
  refine List.countP_congr ?_
  intro call _
  cases call <;> simp [Call.isDealing]

/-! ### The calls of one thing that happens -/

theorem Engine.eq_of_mem_freeing {flag : Option Address} {others : List Address} {call : Call}
    (h : call ∈ freeing flag others) : ∃ f, call = .flagFreed f := by
  unfold freeing at h
  split at h
  · next f =>
    split at h
    · cases h
    · exact ⟨f, List.mem_singleton.mp h⟩
  · cases h

namespace Departure

theorem eq_of_mem_question {d : Departure} {call : Call} (h : call ∈ d.question) :
    ∃ f, d.flag = some f ∧ call = .asked f := by
  unfold question at h
  split at h
  · obtain ⟨f, hf, rfl⟩ := List.mem_map.mp h
    exact ⟨f, Option.mem_toList.mp hf, rfl⟩
  · cases h

/-- The calls with which a request ends, before its flag is let go. -/
def dealt (d : Departure) : List Call := d.terminal?.toList.map Terminal.call ++ d.question

theorem not_freed_dealt (d : Departure) (f : Address) : .flagFreed f ∉ d.dealt := by
  intro hmem
  rcases List.mem_append.mp hmem with hterminal | hquestion
  · obtain ⟨t, _, ht⟩ := List.mem_map.mp hterminal
    exact t.call_ne_flagFreed f ht
  · obtain ⟨g, _, hg⟩ := eq_of_mem_question hquestion
    cases hg

theorem flag_of_asked {d : Departure} {f : Address} (h : .asked f ∈ d.dealt) : d.flag = some f := by
  rcases List.mem_append.mp h with hterminal | hquestion
  · obtain ⟨t, _, ht⟩ := List.mem_map.mp hterminal
    exact absurd ht (t.call_ne_asked f)
  · obtain ⟨g, hflag, hg⟩ := eq_of_mem_question hquestion
    cases hg
    exact hflag

end Departure

namespace Engine

theorem count_freeing (flag : Option Address) (others : List Address) (f : Address) :
    (freeing flag others).count (.flagFreed f) = if flag = some f ∧ f ∉ others then 1 else 0 := by
  unfold freeing
  split
  · next g =>
    split
    · next hmem =>
      refine (if_neg ?_).symm
      rintro ⟨hgf, hf⟩
      cases hgf
      exact hf hmem
    · next hmem =>
      by_cases hgf : g = f
      · subst hgf
        simp [hmem]
      · simp [hgf]
  · simp

theorem count_calls (d : Departure) (others : List Address) (f : Address) :
    (d.calls others).count (.flagFreed f) = if d.flag = some f ∧ f ∉ others then 1 else 0 := by
  show (freeing d.flag others ++ d.dealt).count _ = _
  rw [List.count_append, List.count_eq_zero.mpr (d.not_freed_dealt f), count_freeing]
  rfl

theorem not_asked_freeing (flag : Option Address) (others : List Address) (f : Address) :
    .asked f ∉ freeing flag others := by
  intro h
  obtain ⟨g, hg⟩ := eq_of_mem_freeing h
  cases hg

variable {held held' : List Address} {ds : List Departure} {left : Option Address}
  {calls : List Call}

theorem Deals.count (h : Deals held held' ds left calls) (f : Address) :
    calls.count (.flagFreed f) = if left = some f ∧ f ∉ held' then 1 else 0 := by
  cases h with
  | nothing => rfl
  | ask hf => rfl
  | letGo g => exact count_freeing (some g) held' f
  | depart d => exact count_calls d held' f

/-- A flag that is asked is held, or is left only then. -/
theorem Deals.asked (h : Deals held held' ds left calls) {f : Address} (hf : .asked f ∈ calls) :
    f ∈ held ∨ left = some f := by
  cases h with
  | nothing => cases hf
  | ask hmem =>
    cases List.mem_singleton.mp hf
    exact .inl hmem
  | letGo g => exact absurd hf (not_asked_freeing _ _ f)
  | depart d =>
    rcases List.mem_append.mp hf with hfreeing | hdealt
    · exact absurd hfreeing (not_asked_freeing _ _ f)
    · exact .inr (Departure.flag_of_asked hdealt)

theorem Deals.guarded (h : Deals held held' ds left calls) : Call.Guarded calls := by
  cases h with
  | nothing => exact .nil
  | ask hf => exact List.pairwise_singleton _ _
  | letGo g => exact Call.guarded_of_not_asked (not_asked_freeing _ _)
  | depart d =>
    refine Call.guarded_append.mpr ⟨?_, ?_, ?_⟩
    · exact Call.guarded_of_not_asked (not_asked_freeing _ _)
    · exact Call.guarded_of_not_freed d.not_freed_dealt
    · intro f hasked
      exact absurd hasked (not_asked_freeing _ _ f)

end Engine

namespace Bridge
open Occurrence

/-! ### The balance of flags -/

/-- The flags of the requests that were handed over: whoever refers to a flag, it is one of
them; each is freed once when no one refers to it any more, and not before; and no one asks
for a flag after it was freed. -/
structure Accounted (flags : List Address) (b : Bridge) : Prop where
  held : ∀ f ∈ b.flags, f ∈ flags
  count : ∀ f, b.engine.flagFreedCount f = if f ∈ flags ∧ f ∉ b.flags then 1 else 0
  guarded : Call.Guarded b.engine.dealings

theorem accounted_new (profile : Profile) : Accounted [] (Bridge.new profile) :=
  ⟨fun _ hf => hf, fun _ => rfl, .nil⟩

/-- A flag that someone refers to, or that only comes, is not freed yet. -/
theorem Accounted.not_freed {flags new : List Address} {b : Bridge} (a : Accounted flags b)
    (hfresh : ∀ f ∈ new, f ∉ flags) {f : Address} (hf : f ∈ b.flags ∨ f ∈ new) :
    .flagFreed f ∉ b.engine.dealings := by
  refine List.count_eq_zero.mp ?_
  rw [← b.engine.flagFreedCount_eq, a.count]
  refine if_neg ?_
  rintro ⟨hflags, hnot⟩
  exact hf.elim hnot fun hnew => hfresh f hnew hflags

/-- New flags come, one is left, and what is left is freed. -/
theorem Accounted.step {flags : List Address} {os : List Occurrence} {b b' : Bridge}
    (a : Accounted flags b) (h : b.Dealt os b') (hfresh : ∀ f ∈ newFlags os, f ∉ flags) :
    Accounted (flags ++ newFlags os) b' := by
  obtain ⟨left, calls, hdeals, hpasses, hdealings⟩ := h
  refine ⟨?_, ?_, ?_⟩
  · intro f hf
    exact List.mem_append.mpr ((hpasses.subset f hf).imp_left (a.held f))
  · intro f
    have hcount : b'.engine.flagFreedCount f =
        (if left = some f ∧ f ∉ b'.flags then 1 else 0) + b.engine.flagFreedCount f := by
      rw [b'.engine.flagFreedCount_eq, hdealings, List.count_append, hdeals.count,
        ← b.engine.flagFreedCount_eq]
    rw [hcount, a.count]
    by_cases hleft : left = some f
    · have hknown := hpasses.known f hleft
      have hmem : f ∈ flags ++ newFlags os := List.mem_append.mpr (hknown.imp_left (a.held f))
      have hzero : ¬(f ∈ flags ∧ f ∉ b.flags) := by
        rintro ⟨hflags, hnot⟩
        exact hknown.elim hnot fun hnew => hfresh f hnew hflags
      simp [hleft, hmem, hzero]
    · have hsame := hpasses.others f hleft
      rw [if_neg (fun hand => hleft hand.1), Nat.zero_add]
      by_cases hnew : f ∈ newFlags os
      · simp [hnew, hsame, hfresh f hnew]
      · simp [hnew, hsame]
  · rw [hdealings]
    refine Call.guarded_append.mpr ⟨hdeals.guarded, a.guarded, ?_⟩
    intro f hasked
    exact a.not_freed hfresh ((hdeals.asked hasked).elim .inl (hpasses.known f))

/-- The flags of requests that arrive are not those of requests that arrived before. -/
theorem Ledger.flags_fresh {os os' : List Occurrence} {b b' : Bridge} (l : Ledger os b)
    (h : Happens b os' b') : ∀ f ∈ newFlags os', f ∉ newFlags os := by
  intro f hnew hold
  have hlow := ((h.handsOut l.orderly).flags.within f hnew).1
  exact Nat.not_lt_of_le hlow (l.flags.within f hold).2

/-- The flags are accounted for, whatever happens. -/
theorem Accounted.unfolds {os os' : List Occurrence} {b b' : Bridge} (l : Ledger os b)
    (a : Accounted (newFlags os) b) (h : Unfolds b os' b') :
    Accounted (newFlags (os ++ os')) b' := by
  induction h generalizing os with
  | refl b =>
    rw [List.append_nil]
    exact a
  | @step b b' _ os' _ hstep _ ih =>
    have hnow := a.step (hstep.dealt l.orderly) (l.flags_fresh hstep)
    rw [← newFlags_append] at hnow
    rw [← List.append_assoc]
    exact ih (l.step hstep) hnow

/-- The calls with which a request has ended stand together, and its flag was not freed before
them: its peer is asked for, it is ended, and its flag is let go. -/
def Told (os : List Occurrence) (b : Bridge) : Prop :=
  ∀ d ∈ departures os, ∃ later others earlier,
    b.engine.dealings = later ++ (d.calls others ++ earlier) ∧
      ∀ f, d.flag = some f → .flagFreed f ∉ earlier

theorem Told.unfolds {os os' : List Occurrence} {b b' : Bridge} (l : Ledger os b)
    (a : Accounted (newFlags os) b) (told : Told os b) (h : Unfolds b os' b') :
    Told (os ++ os') b' := by
  induction h generalizing os with
  | refl b =>
    rw [List.append_nil]
    exact told
  | @step b b' _ os' _ hstep _ ih =>
    rw [← List.append_assoc]
    refine ih (l.step hstep) (a.unfolds l hstep.unfolds) ?_
    obtain ⟨left, calls, hdeals, hpasses, hdealings⟩ := hstep.dealt l.orderly
    intro d hd
    rw [departures_append] at hd
    rcases List.mem_append.mp hd with hd | hd
    · obtain ⟨later, others, earlier, heq, hfreed⟩ := told d hd
      exact ⟨calls ++ later, others, earlier, by rw [hdealings, heq, List.append_assoc], hfreed⟩
    · generalize departures os' = ds at hd hdeals
      cases hdeals with
      | depart d' =>
        cases List.mem_singleton.mp hd
        refine ⟨[], b'.flags, b.engine.dealings, hdealings, ?_⟩
        intro f hf
        exact a.not_freed (l.flags_fresh hstep) (hpasses.known f hf)
      | _ => cases hd

/-- Of the given flags, each was freed exactly once, unless a task or a copy of its token still
refers to it; nothing else was freed, and no flag was asked after it was freed. -/
structure FreesOnce (flags : List Address) (b : Bridge) : Prop where
  atMostOnce : ∀ f, b.engine.flagFreedCount f ≤ 1
  held : ∀ f ∈ b.flags, f ∈ flags ∧ b.engine.flagFreedCount f = 0
  freed : ∀ f ∈ flags, f ∉ b.flags → b.engine.flagFreedCount f = 1
  foreign : ∀ f, f ∉ flags → b.engine.flagFreedCount f = 0
  guarded : Call.Guarded b.engine.journal

theorem Accounted.freesOnce {flags : List Address} {b : Bridge} (a : Accounted flags b) :
    FreesOnce flags b := by
  refine ⟨?_, ?_, ?_, ?_, Engine.guarded_dealings a.guarded⟩
  · intro f
    rw [a.count]
    split
    · exact Nat.le_refl 1
    · exact Nat.zero_le 1
  · intro f hf
    refine ⟨a.held f hf, ?_⟩
    rw [a.count]
    exact if_neg fun h => h.2 hf
  · intro f hflags hf
    rw [a.count]
    exact if_pos ⟨hflags, hf⟩
  · intro f hf
    rw [a.count]
    exact if_neg fun h => hf h.1

/-! ### The last holder -/

/-- No two tasks refer to the same flag. -/
theorem Ledger.nodup_flags {os : List Occurrence} {b : Bridge} (l : Ledger os b) :
    (b.tasks.filterMap (·.flag)).Nodup := by
  have hperm := l.conserved.filterMap (·.2)
  rw [List.filterMap_append, List.filterMap_map, List.filterMap_map, List.filterMap_map] at hperm
  have hnodup := hperm.nodup_iff.mpr l.flags.nodup
  exact (List.nodup_append.mp hnodup).1

/-- A task takes the last reference to its flag with it, unless a copy is left. -/
theorem Ledger.not_held_without {os : List Occurrence} {b b' : Bridge} (l : Ledger os b) {t : Task}
    (ht : t ∈ b.tasks) {f : Address} (hflag : t.flag = some f) (hnot : f ∉ b.kept)
    (hkept : b'.kept = b.kept) (htasks : b'.tasks = Task.without b.tasks t.id) : f ∉ b'.flags := by
  have hperm := (Task.perm_cons_without l.orderly.distinct ht).filterMap (·.flag)
  rw [List.filterMap_cons, hflag] at hperm
  have hnodup := hperm.nodup_iff.mp l.nodup_flags
  have hothers := (List.nodup_cons.mp hnodup).1
  intro hf
  rcases List.mem_append.mp hf with hf | hf
  · exact hnot (hkept ▸ hf)
  · exact hothers (htasks ▸ hf)

theorem discards_kept (ts : List Task) (b : Bridge) : (ts.foldl discard b).kept = b.kept := by
  induction ts generalizing b with
  | nil => rfl
  | cons t rest ih => exact ih _

theorem flags_halt (b : Bridge) : b.halt.flags = b.kept := by
  have hkept : b.halt.kept = b.kept := discards_kept _ _
  rw [flags, tasks_halt, hkept]
  exact List.append_nil _

theorem not_held_dropCopy {b : Bridge} {f : Address} (hcount : b.kept.count f = 1)
    (htasks : ∀ t ∈ b.tasks, t.flag ≠ some f) : f ∉ (b.dropCopy f).flags := by
  have hmem : f ∈ b.kept := List.count_pos_iff.mp (by omega)
  have hkept : (b.dropCopy f).kept = b.kept.erase f := by rw [dropCopy, if_pos hmem]
  have hsame : (b.dropCopy f).tasks = b.tasks := by rw [dropCopy, if_pos hmem]
  rw [mem_flags, hkept, hsame]
  rintro (herase | htask)
  · have hpos := List.count_pos_iff.mpr herase
    rw [List.count_erase_self, hcount] at hpos
    exact absurd hpos (Nat.lt_irrefl 0)
  · obtain ⟨t, ht, hflag⟩ := List.mem_map.mp htask
    exact htasks t ht hflag

/-! ### Every history -/

theorem accounted_of_unfolds {profile : Profile} {os : List Occurrence} {b : Bridge}
    (h : Unfolds (Bridge.new profile) os b) :
    Ledger os b ∧ Accounted (newFlags os) b ∧ Told os b := by
  have l := ledger_new profile
  have a := accounted_new profile
  exact ⟨l.unfolds h, a.unfolds l h, Told.unfolds l a (fun d hd => by cases hd) h⟩

/-- Every state that a new bridge comes to, also in the middle of a move, has every flag freed
once. The one who gives up the last reference frees it: a request that is rejected, a request
whose chain takes its last step, a copy that is dropped, and tasks that run no more. -/
theorem every_flag_is_freed_once (profile : Profile) :
    (∀ os b, Unfolds (Bridge.new profile) os b → FreesOnce (newFlags os) b ∧ Told os b) ∧
    ∀ h : List Move,
      let b := (Bridge.new profile).run h
      let flags := ((Bridge.new profile).inbounds h).filterMap (·.flag)
      FreesOnce flags b ∧
      (∀ attached withContext withFlag cancelled route frame reason f,
        let handed := b.handOver attached withContext withFlag cancelled route frame
        b.admission attached handed.2 = .error reason → handed.2.flag = some f →
          handed.1.engine.flagFreedCount f = 1) ∧
      (∀ t ∈ b.tasks, ∀ result f, t.begun = true → t.act.end? = some result →
        t.flag = some f → f ∉ b.kept → (b.advance t.id).engine.flagFreedCount f = 1) ∧
      (∀ f, b.kept.count f = 1 → (∀ t ∈ b.tasks, t.flag ≠ some f) →
        (b.dropCopy f).engine.flagFreedCount f = 1) ∧
      ∀ f ∈ flags, f ∉ b.kept → b.halt.engine.flagFreedCount f = 1 := by
  refine ⟨?_, ?_⟩
  · intro os b hos
    obtain ⟨_, a, told⟩ := accounted_of_unfolds hos
    exact ⟨a.freesOnce, told⟩
  intro h
  obtain ⟨os, hos, harrivals⟩ := leads_run (orderly_new profile) h
  obtain ⟨l, a, _⟩ := accounted_of_unfolds hos
  have hflags : newFlags os = ((Bridge.new profile).inbounds h).filterMap (·.flag) := by
    rw [newFlags, harrivals]
  dsimp only
  rw [← hflags]
  generalize (Bridge.new profile).run h = b at l a
  refine ⟨a.freesOnce, ?_, ?_, ?_, ?_⟩
  · intro attached withContext withFlag cancelled route frame reason f hadmission hf
    have hcases := b.handOver_cases attached withContext withFlag cancelled route frame
    dsimp only at hcases
    rw [hadmission] at hcases
    obtain ⟨⟨gone, happens⟩, hsame⟩ := hcases
    generalize b.handOver attached withContext withFlag cancelled route frame = handed at *
    have hnew : f ∈ newFlags [.arrived handed.2,
        .departed ⟨handed.2.context, handed.2.flag, .rejected reason, gone⟩] := by
      rw [newFlags_of_arrivals rfl]
      exact Option.mem_toList.mpr hf
    refine (a.unfolds l happens.unfolds).freesOnce.freed f ?_ ?_
    · rw [newFlags_append]
      exact List.mem_append_right _ hnew
    · rw [hsame]
      exact fun hheld => l.flags_fresh happens f hnew (a.held f hheld)
  · intro t ht result f hbegun hend hflag hnot
    have hfind := task?_of_mem l.orderly.distinct ht
    have hheld := a.held f (mem_flags_of_task ht hflag)
    have happens := Happens.finish hfind hbegun hend
    rw [advance_finish hfind hbegun hend]
    refine (a.unfolds l happens.unfolds).freesOnce.freed f ?_ ?_
    · rw [newFlags_append]
      exact List.mem_append_left _ hheld
    · exact l.not_held_without ht hflag hnot rfl rfl
  · intro f hcount htasks
    have hmem : f ∈ b.kept := List.count_pos_iff.mp (by omega)
    have hheld := a.held f (mem_flags.mpr (.inl hmem))
    refine (a.unfolds l (Happens.dropCopy b f).unfolds).freesOnce.freed f ?_ ?_
    · rw [List.append_nil]
      exact hheld
    · exact not_held_dropCopy hcount htasks
  · intro f hf hnot
    obtain ⟨os', hos', _⟩ := leads_halt l.orderly
    refine (a.unfolds l hos').freesOnce.freed f ?_ ?_
    · rw [newFlags_append]
      exact List.mem_append_left _ hf
    · rw [flags_halt]
      exact hnot

end Bridge
end RequestBridge
