import RequestBridge.Client.Waiting
import RequestBridge.Proofs.Places

/-! No call is lost.

A client that has looked in vain and has not been called since waits for a context of which every
end that is written down is still to be announced: when it looked none was written, and the first
one to be announced would have called it. Every event keeps that (`Lobby.Safe.apply`), and so it
holds in every run (`Lobby.Safe.run`), next to what a client is served with, which is the first end
that was written down for its context. So a client of whose context an end has been announced
needs no further call to be served (`Lobby.announced_is_served`). -/
namespace RequestBridge.Client

variable {ended unannounced : List Terminal} {w : Waiter}

/-- What holds of a client, among the ends that are written down and those of them that are to be
announced. -/
structure Waiter.Safe (ended unannounced : List Terminal) (w : Waiter) : Prop where
  /-- Whoever has looked in vain and has not been called has no announcement behind it. -/
  ahead : w.standing = .drowsy ∨ w.standing = .asleep → w.called = false →
    unannounced.filter (·.context == w.context) = ended.filter (·.context == w.context)
  /-- Whoever is served has the first end of its context. -/
  first : ∀ terminal, w.standing = .served terminal →
    ended.find? (·.context == w.context) = some terminal

namespace Waiter.Safe

theorem of_arriving (h : w.standing = .arriving) : w.Safe ended unannounced where
  ahead hlooked := by simp [h] at hlooked
  first _ hserved := nomatch h.symm.trans hserved

theorem write (h : w.Safe ended unannounced) (terminal : Terminal) :
    w.Safe (ended ++ [terminal]) (unannounced ++ [terminal]) where
  ahead hlooked hcalled := by
    rw [List.filter_append, List.filter_append, h.ahead hlooked hcalled]
  first found hserved := by
    rw [List.find?_append, h.first found hserved]
    rfl

/-- An announcement calls whoever listens, and nobody else has looked in vain. -/
theorem announce (h : w.Safe ended unannounced) (left : List Terminal) :
    (if w.listens then { w with called := true } else w).Safe ended left := by
  cases hlistens : w.listens with
  | true =>
    rw [if_pos rfl]
    exact ⟨fun _ => nofun, h.first⟩
  | false =>
    rw [if_neg Bool.false_ne_true]
    refine ⟨fun hlooked => ?_, h.first⟩
    rcases hlooked with hlooked | hlooked <;> simp [Waiter.listens, hlooked] at hlistens

/-- Whoever has looked in vain has been called if an end of its context has been announced. -/
theorem called (h : w.Safe ended unannounced)
    (hlooked : w.standing = .drowsy ∨ w.standing = .asleep) {terminal : Terminal}
    (hmem : terminal ∈ ended) (hcontext : terminal.context = w.context)
    (hannounced : terminal ∉ unannounced) : w.called = true := by
  cases hcalled : w.called with
  | true => rfl
  | false =>
    have hin : terminal ∈ ended.filter (·.context == w.context) :=
      List.mem_filter.mpr ⟨hmem, by simp [hcontext]⟩
    rw [← h.ahead hlooked hcalled] at hin
    exact absurd (List.mem_filter.mp hin).1 hannounced

end Waiter.Safe

namespace Lobby

structure Safe (l : Lobby) : Prop where
  written : ∀ terminal ∈ l.unannounced, terminal ∈ l.ended
  waiters : ∀ w ∈ l.waiters, w.Safe l.ended l.unannounced

variable {l : Lobby}

/-- Whoever looks in vain has no end that is written down, and whoever finds one finds the first. -/
theorem Safe.next (hl : l.Safe) (h : w.Safe l.ended l.unannounced) :
    (l.next w).Safe l.ended l.unannounced := by
  obtain ⟨context, standing, called⟩ := w
  cases standing with
  | arriving => exact ⟨fun hlooked => by simp [Lobby.next] at hlooked, nofun⟩
  | looking =>
    cases hfound : l.find? context with
    | some terminal =>
      simp only [Lobby.next, hfound]
      refine ⟨fun hlooked => by simp at hlooked, fun found hserved => ?_⟩
      cases hserved
      exact hfound
    | none =>
      simp only [Lobby.next, hfound]
      refine ⟨fun _ _ => ?_, nofun⟩
      have hnone := List.find?_eq_none.mp hfound
      rw [List.filter_eq_nil_iff.mpr hnone,
        List.filter_eq_nil_iff.mpr fun t ht => hnone t (hl.written t ht)]
  | drowsy =>
    cases called with
    | true => exact .of_arriving rfl
    | false => exact ⟨fun _ hcalled => h.ahead (.inl rfl) hcalled, nofun⟩
  | asleep =>
    cases called with
    | true => exact .of_arriving rfl
    | false => exact h
  | served terminal => exact h

theorem Safe.apply (h : l.Safe) (event : Event) : (l.apply event).Safe := by
  cases event with
  | enter context =>
    refine ⟨h.written, fun w hw => ?_⟩
    rcases List.mem_append.mp hw with hw | hw
    · exact h.waiters w hw
    · obtain rfl := List.mem_singleton.mp hw
      exact .of_arriving rfl
  | write terminal =>
    refine ⟨fun t ht => ?_, fun w hw => (h.waiters w hw).write terminal⟩
    rcases List.mem_append.mp ht with ht | ht
    · exact List.mem_append_left _ (h.written t ht)
    · exact List.mem_append_right _ ht
  | announce terminal =>
    simp only [Lobby.apply]
    split
    · refine ⟨fun t ht => h.written t (List.mem_of_mem_erase ht), fun w hw => ?_⟩
      obtain ⟨before, hbefore, rfl⟩ := List.mem_map.mp hw
      exact (h.waiters before hbefore).announce _
    · exact h
  | step i =>
    refine ⟨h.written, fun w hw => ?_⟩
    rcases mem_modify hw with hw | ⟨before, hbefore, rfl⟩
    · exact h.waiters w hw
    · exact h.next (h.waiters before hbefore)
  | leave i => exact ⟨h.written, fun w hw => h.waiters w (List.mem_of_mem_eraseIdx hw)⟩

theorem Safe.run (h : l.Safe) (events : List Event) : (l.run events).Safe := by
  induction events generalizing l with
  | nil => exact h
  | cons event rest ih => exact ih (h.apply event)

theorem safe_empty : ({} : Lobby).Safe := ⟨nofun, nofun⟩

/-! ### What is written down -/

/-- The end that an event writes down. -/
def Event.written? : Event → Option Terminal
  | .write terminal => some terminal
  | _ => none

theorem ended_apply (l : Lobby) (event : Event) :
    (l.apply event).ended = l.ended ++ event.written?.toList := by
  cases event with
  | write terminal => rfl
  | announce terminal =>
    simp only [apply]
    split <;> simp [call, Event.written?]
  | _ => simp [apply, Event.written?]

theorem ended_run (l : Lobby) (events : List Event) :
    (l.run events).ended = l.ended ++ events.filterMap Event.written? := by
  induction events generalizing l with
  | nil => simp [run]
  | cons event rest ih =>
    rw [run, ih, ended_apply]
    cases h : event.written? <;> simp [h]

/-! ### No lost call -/

/-- In every run, a client that sleeps without having been called waits for a context of which no
end has been announced yet: all that are written down are still to be announced. A client that is
served has the first end that was written down for its context. -/
theorem no_call_is_lost (events : List Event) :
    let l := ({} : Lobby).run events
    l.ended = events.filterMap Event.written? ∧
    ∀ w ∈ l.waiters,
      (w.standing = .asleep → w.called = false →
        l.unannounced.filter (·.context == w.context) =
          l.ended.filter (·.context == w.context)) ∧
      ∀ terminal, w.standing = .served terminal →
        l.ended.find? (·.context == w.context) = some terminal := by
  intro l
  have hsafe : l.Safe := safe_empty.run events
  refine ⟨by simpa using ended_run {} events, fun w hw => ?_⟩
  have hw := hsafe.waiters w hw
  exact ⟨fun hasleep => hw.ahead (.inr hasleep), hw.first⟩

/-- Two clients look in vain and sleep, the end of the second is announced and wakes both, and the
end of the first is written down when it sleeps again. -/
def twoClients : List Event :=
  [.enter 7, .enter 9] ++ List.replicate 3 (.step 0) ++ List.replicate 3 (.step 1) ++
    [.write (.released 9), .announce (.released 9)] ++ List.replicate 4 (.step 0) ++
    List.replicate 3 (.step 1) ++ [.write (.released 7)]

theorem sleeper_has_its_call_ahead :
    let l := ({} : Lobby).run twoClients
    l.waiters = [⟨7, .asleep, false⟩, ⟨9, .served (.released 9), false⟩] ∧
    l.unannounced.filter (·.context == 7) = l.ended.filter (·.context == 7) ∧
    l.ended.find? (·.context == 9) = some (.released 9) := by
  have hwaiters := (no_call_is_lost twoClients).2
  exact ⟨by decide, (hwaiters ⟨7, .asleep, false⟩ (by decide)).1 rfl rfl,
    (hwaiters ⟨9, .served (.released 9), false⟩ (by decide)).2 _ rfl⟩

/-! ### Who is called is served -/

/-- Whoever looks finds an end that is written down for its context. -/
theorem exists_served_of_looking (h : w.standing = .looking) {terminal : Terminal}
    (hmem : terminal ∈ l.ended) (hcontext : terminal.context = w.context) :
    ∃ found, (l.next w).standing = .served found := by
  have hsome : (l.find? w.context).isSome = true :=
    List.find?_isSome.mpr ⟨terminal, hmem, by simp [hcontext]⟩
  obtain ⟨found, hfound⟩ := Option.isSome_iff_exists.mp hsome
  exact ⟨found, by simp [next, h, hfound]⟩

theorem context_next (l : Lobby) (w : Waiter) : (l.next w).context = w.context := by
  obtain ⟨context, standing, called⟩ := w
  cases standing with
  | looking =>
    simp only [next]
    cases l.find? context <;> rfl
  | asleep => cases called <;> rfl
  | _ => rfl

theorem next_of_served {found : Terminal} (h : w.standing = .served found) : l.next w = w := by
  simp [next, h]

/-- A client of whose context some end has been announced is served after three steps of its own at
most: it is on its way to look, or it has been called. -/
theorem exists_served_of_announced (hl : l.Safe) (hw : w ∈ l.waiters) {terminal : Terminal}
    (hmem : terminal ∈ l.ended) (hcontext : terminal.context = w.context)
    (hannounced : terminal ∉ l.unannounced) :
    ∃ found, (l.next (l.next (l.next w))).standing = .served found := by
  have hlook : ∀ v : Waiter, v.context = w.context → v.standing = .arriving →
      ∃ found, (l.next (l.next v)).standing = .served found := by
    intro v hv harriving
    have hlooking : (l.next v).standing = .looking := by simp [next, harriving]
    have hsame : terminal.context = (l.next v).context := by simp [next, harriving, hcontext, hv]
    exact exists_served_of_looking hlooking hmem hsame
  cases hstanding : w.standing with
  | arriving =>
    obtain ⟨found, hfound⟩ := hlook w rfl hstanding
    exact ⟨found, by rw [next_of_served hfound, hfound]⟩
  | looking =>
    obtain ⟨found, hfound⟩ := exists_served_of_looking hstanding hmem hcontext
    exact ⟨found, by rw [next_of_served hfound, next_of_served hfound, hfound]⟩
  | drowsy =>
    have hcalled := (hl.waiters w hw).called (.inl hstanding) hmem hcontext hannounced
    exact hlook (l.next w) (by simp [next, hstanding]) (by simp [next, hstanding, hcalled])
  | asleep =>
    have hcalled := (hl.waiters w hw).called (.inr hstanding) hmem hcontext hannounced
    exact hlook (l.next w) (by simp [next, hstanding, hcalled]) (by simp [next, hstanding, hcalled])
  | served found =>
    have hsame : l.next w = w := next_of_served hstanding
    exact ⟨found, by rw [hsame, hsame, hsame, hstanding]⟩

theorem getElem?_step (l : Lobby) (i : Nat) :
    (l.apply (.step i)).waiters[i]? = l.waiters[i]?.map l.next := by
  simp [apply]

/-- In every run, three steps of its own are enough for a client of whose context some end has been
announced, whatever it has slept through. -/
theorem announced_is_served (events : List Event) (i : Nat) {terminal : Terminal}
    (hw : (({} : Lobby).run events).waiters[i]? = some w)
    (hmem : terminal ∈ (({} : Lobby).run events).ended) (hcontext : terminal.context = w.context)
    (hannounced : terminal ∉ (({} : Lobby).run events).unannounced) :
    ∃ v found, (({} : Lobby).run (events ++ List.replicate 3 (.step i))).waiters[i]? = some v ∧
      v.context = w.context ∧ v.standing = .served found := by
  rw [run_append]
  generalize hl : ({} : Lobby).run events = l at *
  have hsafe : l.Safe := hl ▸ safe_empty.run events
  obtain ⟨found, hfound⟩ :=
    exists_served_of_announced hsafe (List.mem_of_getElem? hw) hmem hcontext hannounced
  refine ⟨l.next (l.next (l.next w)), found, ?_, by simp [context_next], hfound⟩
  show (((l.apply (.step i)).apply (.step i)).apply (.step i)).waiters[i]? = _
  rw [getElem?_step, getElem?_step, getElem?_step, hw]
  rfl

end Lobby
end RequestBridge.Client
