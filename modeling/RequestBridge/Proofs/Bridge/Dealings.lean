import RequestBridge.Proofs.Bridge.Arrivals

/-! What the engine is told of requests, and who holds their flags.

One thing that happens is few calls about requests: a question, the freeing of a flag, or the
end of a request (`Engine.Deals`). Which of them frees a flag depends on who holds it after
(`Engine.Passes`), so the two are described together (`Happens.dealt`). -/
namespace RequestBridge
open Occurrence

theorem Engine.isDealing_freeing (flag : Option Address) (others : List Address) :
    (freeing flag others).filter Call.isDealing = freeing flag others := by
  unfold freeing
  split
  · split <;> rfl
  · rfl

theorem Departure.isDealing_calls (d : Departure) (others : List Address) :
    (d.calls others).filter Call.isDealing = d.calls others := by
  have hrest : (d.terminal?.toList.map Terminal.call ++ d.question).filter Call.isDealing =
      d.terminal?.toList.map Terminal.call ++ d.question := by
    refine List.filter_eq_self.mpr ?_
    intro call hcall
    rcases List.mem_append.mp hcall with hterminal | hquestion
    · obtain ⟨t, _, rfl⟩ := List.mem_map.mp hterminal
      cases t <;> rfl
    · unfold question at hquestion
      split at hquestion
      · obtain ⟨f, _, rfl⟩ := List.mem_map.mp hquestion
        rfl
      · cases hquestion
  rw [calls, List.filter_append, Engine.isDealing_freeing, hrest]

namespace Engine

theorem dealings_noted (e : Engine) (calls : List Call) :
    (e.noted calls).dealings = calls.filter Call.isDealing ++ e.dealings :=
  List.filter_append ..

theorem dealings_of_journal {e e' : Engine} (h : e'.journal = e.journal) :
    e'.dealings = e.dealings :=
  congrArg (List.filter Call.isDealing) h

theorem terminals_eq_dealings (e : Engine) :
    e.terminals = e.dealings.reverse.filterMap Call.terminal? := by
  unfold terminals dealings
  rw [← List.filter_reverse, List.filterMap_filter]
  refine List.filterMap_congr ?_
  intro call _
  cases call <;> rfl

/-- The calls about requests that come with one thing that happens, the latest first, between
two lists of the flags that anything refers to. A flag that is asked is held; a flag that is
left is freed if no one holds it after; and a request that departs does both in turn. -/
inductive Deals (held held' : List Address) :
    List Departure → Option Address → List Call → Prop
  | nothing : Deals held held' [] none []
  | ask {f : Address} (hf : f ∈ held) : Deals held held' [] none [.asked f]
  | letGo (f : Address) : Deals held held' [] (some f) (freeing (some f) held')
  | depart (d : Departure) : Deals held held' [d] d.flag (d.calls held')

theorem Deals.terminals {held held' : List Address} {ds : List Departure} {left : Option Address}
    {calls : List Call} (h : Deals held held' ds left calls) :
    calls.reverse.filterMap Call.terminal? = ds.filterMap Departure.terminal? := by
  cases h with
  | nothing => rfl
  | ask hf => rfl
  | letGo f => rw [List.filterMap_reverse, terminal?_freeing]; rfl
  | depart d =>
    rw [Departure.terminals_calls]
    cases hd : d.terminal? <;> simp [hd]

/-- How the flags that anything refers to change: new ones come, and one may be left. -/
structure Passes (held new : List Address) (left : Option Address) (held' : List Address) :
    Prop where
  known : ∀ f, left = some f → f ∈ held ∨ f ∈ new
  others : ∀ f, left ≠ some f → (f ∈ held' ↔ f ∈ held ∨ f ∈ new)
  subset : ∀ f ∈ held', f ∈ held ∨ f ∈ new

theorem Passes.of_iff {held new held' : List Address}
    (h : ∀ f, f ∈ held' ↔ f ∈ held ∨ f ∈ new) : Passes held new none held' :=
  ⟨fun _ hf => (nomatch hf), fun f _ => h f, fun f => (h f).mp⟩

theorem Passes.of_same {held held' : List Address} (h : ∀ f, f ∈ held' ↔ f ∈ held) :
    Passes held [] none held' :=
  .of_iff fun f => by simp [h f]

end Engine

namespace Bridge

theorem mem_flags {b : Bridge} {f : Address} :
    f ∈ b.flags ↔ f ∈ b.kept ∨ some f ∈ b.tasks.map (·.flag) := by
  simp [flags]

/-- The flags of the tasks, where one task is gone. -/
theorem passes_without {b b' : Bridge} {t : Task} (hd : Task.Distinct b.tasks) (ht : t ∈ b.tasks)
    (hkept : b'.kept = b.kept) (htasks : b'.tasks = Task.without b.tasks t.id) :
    Engine.Passes b.flags [] t.flag b'.flags := by
  have hmem : ∀ f, some f ∈ b.tasks.map (·.flag) ↔
      some f = t.flag ∨ some f ∈ (Task.without b.tasks t.id).map (·.flag) := by
    intro f
    rw [((Task.perm_cons_without hd ht).map (·.flag)).mem_iff]
    exact List.mem_cons
  refine ⟨?_, ?_, ?_⟩
  · intro f hf
    exact .inl (mem_flags.mpr (.inr ((hmem f).mpr (.inl hf.symm))))
  · intro f hf
    have hne : some f ≠ t.flag := fun h => hf h.symm
    simp only [mem_flags, hkept, htasks, hmem f, hne, false_or, List.not_mem_nil, or_false]
  · intro f hf
    rw [mem_flags, hkept, htasks] at hf
    refine .inl (mem_flags.mpr (hf.imp_right ?_))
    intro hmem'
    exact (hmem f).mpr (.inr hmem')

theorem passes_proceed {b b' : Bridge} {t : Task} (hd : Task.Distinct b.tasks) (ht : t ∈ b.tasks)
    (h : b.Proceeds t b') : Engine.Passes b.flags [] none b'.flags := by
  refine .of_same ?_
  intro f
  have htasks : (b'.tasks.map (·.flag)).Perm (b.tasks.map (·.flag)) := by
    refine (h.tasks.map _).trans ?_
    rw [Task.map_replaced hd ht (t.id_next ..) (·.flag)
      (congrArg (·.2) (t.addresses_next ..))]
  rw [mem_flags, mem_flags, htasks.mem_iff]
  rcases h.kept with hkept | ⟨g, hg, hkept⟩
  · rw [hkept]
  · have hmem : some g ∈ b.tasks.map (·.flag) := List.mem_map.mpr ⟨t, ht, hg⟩
    rw [hkept, List.mem_cons]
    constructor
    · rintro ((rfl | hf) | hf)
      · exact .inr hmem
      · exact .inl hf
      · exact .inr hf
    · rintro (hf | hf)
      · exact .inl (.inr hf)
      · exact .inr hf

/-- A request that is rejected leaves the flag with which it comes. -/
theorem passes_reject (held : List Address) (flag : Option Address) :
    Engine.Passes held flag.toList flag held := by
  refine ⟨?_, ?_, fun f hf => .inl hf⟩
  · intro f hf
    exact .inr (Option.mem_toList.mpr hf)
  · intro f hf
    have hnew : f ∉ flag.toList := fun hmem => hf (Option.mem_toList.mp hmem)
    simp [hnew]

theorem passes_enqueue {b b' : Bridge} {t : Task} {flag : Option Address} (hflag : t.flag = flag)
    (hkept : b'.kept = b.kept) (htasks : b'.tasks = b.tasks ++ [t]) :
    Engine.Passes b.flags flag.toList none b'.flags := by
  refine .of_iff ?_
  intro f
  rw [mem_flags, mem_flags, hkept, htasks, List.map_append, List.mem_append, ← or_assoc]
  refine or_congr_right ?_
  rw [List.map_singleton, List.mem_singleton, hflag, Option.mem_toList]
  exact eq_comm

theorem passes_openGate (b : Bridge) (gate : String) :
    Engine.Passes b.flags [] none (b.openGate gate).flags := by
  refine .of_same ?_
  intro f
  have htasks : ((b.openGate gate).tasks.map (·.flag)).Perm (b.tasks.map (·.flag)) := by
    refine ((b.openGate_tasks gate).map _).trans ?_
    rw [List.map_map]
    refine .of_eq (List.map_congr_left ?_)
    intro t _
    exact congrArg (·.2.2.2) (t.ticket_through gate)
  rw [mem_flags, mem_flags, htasks.mem_iff]
  rfl

theorem passes_dropCopy {b b' : Bridge} {f : Address} (hf : f ∈ b.kept)
    (hkept : b'.kept = b.kept.erase f) (htasks : b'.tasks = b.tasks) :
    Engine.Passes b.flags [] (some f) b'.flags := by
  refine ⟨?_, ?_, ?_⟩
  · intro g hg
    cases hg
    exact .inl (mem_flags.mpr (.inl hf))
  · intro g hg
    have hne : g ≠ f := fun h => hg (congrArg some h.symm)
    simp only [mem_flags, hkept, htasks, List.mem_erase_of_ne hne, List.not_mem_nil, or_false]
  · intro g hg
    rw [mem_flags, hkept, htasks] at hg
    exact .inl (mem_flags.mpr (hg.imp_left List.mem_of_mem_erase))

theorem mem_flags_of_task {b : Bridge} {t : Task} {f : Address} (ht : t ∈ b.tasks)
    (hf : t.flag = some f) : f ∈ b.flags :=
  mem_flags.mpr (.inr (List.mem_map.mpr ⟨t, ht, hf⟩))

/-- What one thing that happens is to the engine. -/
def Dealt (b : Bridge) (os : List Occurrence) (b' : Bridge) : Prop :=
  ∃ left calls, Engine.Deals b.flags b'.flags (departures os) left calls ∧
    Engine.Passes b.flags (newFlags os) left b'.flags ∧
    b'.engine.dealings = calls ++ b.engine.dealings

theorem dealt_of_quiet {b b' : Bridge} (hpasses : Engine.Passes b.flags [] none b'.flags)
    (he : b'.engine.dealings = b.engine.dealings) : b.Dealt [] b' :=
  ⟨none, [], .nothing, hpasses, he⟩

theorem dealt_of_ask {b b' : Bridge} {f : Address} (hf : f ∈ b.flags)
    (hpasses : Engine.Passes b.flags [] none b'.flags)
    (he : b'.engine = b.engine.record (.asked f)) : b.Dealt [] b' :=
  ⟨none, [.asked f], .ask hf, hpasses, by rw [he]; exact List.filter_cons_of_pos rfl⟩

theorem dealings_of_calls {e e' : Engine} {d : Departure} {others : List Address}
    (h : e' = e.noted (d.calls others)) : e'.dealings = d.calls others ++ e.dealings := by
  rw [h, Engine.dealings_noted, Departure.isDealing_calls]

theorem Happens.dealt {b b' : Bridge} {os : List Occurrence} (h : Happens b os b')
    (ho : b.Orderly) : b.Dealt os b' := by
  cases h with
  | managed h =>
    have htasks : b'.tasks = b.tasks := congrArg Traffic.tasks h.traffic
    have hkept : b'.kept = b.kept := congrArg Traffic.kept h.traffic
    refine dealt_of_quiet (.of_same ?_) (congrArg (fun traffic => traffic.engine.dealings) h.traffic)
    intro f
    rw [mem_flags, mem_flags, htasks, hkept]
  | cancel flag => exact dealt_of_quiet (.of_same fun _ => .rfl) rfl
  | openGate gate => exact dealt_of_quiet (b.passes_openGate gate) rfl
  | close => exact dealt_of_quiet (.of_same fun _ => .rfl) rfl
  | askCopy flag =>
    unfold Bridge.askCopy
    split
    · next hmem =>
      exact dealt_of_ask (mem_flags.mpr (.inl hmem)) (.of_same fun _ => .rfl) rfl
    · exact dealt_of_quiet (.of_same fun _ => .rfl) rfl
  | dropCopy flag =>
    unfold Bridge.dropCopy
    split
    · next hmem =>
      refine ⟨some flag, _, .letGo flag, passes_dropCopy hmem rfl rfl, ?_⟩
      dsimp only
      rw [Engine.letGo_eq, Engine.dealings_noted, Engine.isDealing_freeing]
      rfl
    · exact dealt_of_quiet (.of_same fun _ => .rfl) rfl
  | @reject e _ _ _ call _ reason events hequip hadmission =>
    refine ⟨call.flag, _, .depart ⟨call.context, call.flag, .rejected reason, _⟩, ?_, ?_⟩
    · rw [newFlags_of_arrivals rfl]
      exact passes_reject b.flags call.flag
    · rw [← Engine.dealings_of_journal (Engine.equipped_of_equip hequip).journal]
      exact dealings_of_calls (reject_engine _ call reason)
  | @enqueue e _ _ _ call _ act hequip hadmission =>
    refine ⟨none, [], .nothing, ?_,
      Engine.dealings_of_journal (Engine.equipped_of_equip hequip).journal⟩
    rw [newFlags_of_arrivals rfl]
    exact passes_enqueue rfl rfl rfl
  | proceed hfind hgoes =>
    have ht := (mem_of_task? hfind).1
    have hstep := advance_proceeds ho.distinct hfind hgoes
    have hpasses := passes_proceed ho.distinct ht hstep
    rcases hstep.engine with he | ⟨f, hflag, he⟩
    · exact dealt_of_quiet hpasses (congrArg Engine.dealings he)
    · exact dealt_of_ask (mem_flags_of_task ht hflag) hpasses he
  | @finish t result hfind hbegun hend =>
    refine ⟨t.flag, _, .depart ⟨t.context, t.flag, .settled result, _⟩, ?_,
      dealings_of_calls (b.finish_engine t result)⟩
    exact passes_without ho.distinct (mem_of_task? hfind).1 rfl rfl
  | @discard t ht hhalted =>
    refine ⟨t.flag, _, .depart ⟨t.context, t.flag, .dropped, _⟩, ?_,
      dealings_of_calls (b.discard_engine t)⟩
    exact passes_without ho.distinct ht rfl rfl

end Bridge
end RequestBridge
