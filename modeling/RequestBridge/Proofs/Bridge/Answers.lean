import RequestBridge.Proofs.Bridge.Independence

/-! What every peer is told in the end.

A peer that is gone when its request ends is told nothing but that, and any other peer gets a
frame that reads as the response that was settled on (`Engine.Ended`). This holds in every state
that a bridge comes to, it stays, and other peers have no part in it
(`every_request_ends_rightly`). -/
namespace RequestBridge

/-- On a context there is the terminal action that belongs to an ending, for a peer that is gone
or for one that still waits. -/
structure Engine.Ended (e : Engine) (c : Address) (ending : Ending) (gone : Bool) : Prop where
  unfinished : ending.response? = none → e.terminalOf? c = some (.released c)
  released : ∀ r, ending.response? = some r →
    (e.terminalOf? c = some (.released c) ↔ gone = true)
  answered : ∀ r, ending.response? = some r → gone = false →
    ∃ frame, e.terminalOf? c = some (.completed c frame) ∧
      Frame.decodeResponse frame = .ok r.fitted.1 ∧
      (r.body.length ≤ Frame.maxField → Frame.decodeResponse frame = .ok r)

theorem Engine.ended_of_terminalOf? {e : Engine} {c : Address} {ending : Ending} {gone : Bool}
    (h : e.terminalOf? c = some (ending.terminal c gone)) : e.Ended c ending gone := by
  rcases ending.terminal_cases c gone with ⟨hreleased, hwhy⟩ | ⟨r, hr, hthere, hcompleted⟩
  · rw [hreleased] at h
    refine ⟨fun _ => h, ?_, ?_⟩
    · intro r hr
      refine iff_of_true h (hwhy.resolve_left ?_)
      rw [hr]
      exact Option.some_ne_none r
    · intro r hr hthere
      rcases hwhy with hnone | hgone
      · cases hr.symm.trans hnone
      · cases hthere.symm.trans hgone
  · rw [hcompleted] at h
    refine ⟨?_, ?_, ?_⟩
    · intro hnone
      cases hr.symm.trans hnone
    · intro _ _
      rw [h, hthere]
      simp
    · intro r' hr' _
      cases hr.symm.trans hr'
      refine ⟨_, h, r.decode_fitted, ?_⟩
      intro hfits
      rw [r.decode_fitted, Response.fitted_eq hfits]

namespace Bridge
open Occurrence

theorem Ledger.ended {os os' : List Occurrence} {b b' : Bridge} (l : Ledger os b)
    (h : Happens b os' b') {d : Departure} (hd : d ∈ departures os') {c : Address}
    (hc : d.context = some c) : b'.engine.Ended c d.ending (b'.engine.isCancelled d.flag) := by
  have hdeparted : d ∈ departures (os ++ os') := by
    rw [departures_append]
    exact List.mem_append_right _ hd
  refine Engine.ended_of_terminalOf? ?_
  rw [← h.gone hd]
  exact (l.step h).terminal_of_departed hdeparted hc

/-- Where tasks run no more, the requests that are left are let go. -/
theorem Ledger.released_halt {os : List Occurrence} {b : Bridge} (l : Ledger os b) {t : Task}
    (ht : t ∈ b.tasks) {c : Address} (hc : t.context = some c) :
    b.halt.engine.terminalOf? c = some (.released c) := by
  obtain ⟨os', hos', _⟩ := leads_halt l.orderly
  refine (l.unfolds hos').terminalOf?_eq.mpr ⟨?_, rfl⟩
  exact (b.terminals_halt _).mpr (.inr ⟨t, ht, by rw [hc]; rfl⟩)

theorem Ledger.answer_ne_frame {os : List Occurrence} {b : Bridge} (l : Ledger os b) (millis : Nat)
    (c : Address) (e : Frame.Error) : b.answer millis c ≠ .error (.frame e) := by
  rcases l.answer_cases millis c with h | h | ⟨r, h⟩ <;> rw [h] <;> simp

/-- To send a request and to wait is two moves. -/
theorem send_cases (b : Bridge) (millis : Nat) (o : Client.Outbound) :
    (∃ e, b.sendRequest o = .error e ∧ (b.send millis o).2 = .error e) ∨
      ∃ c, (b.send millis o).2 = (b.run [.sendRequest o, .drive]).answer millis c := by
  unfold send
  cases hsent : b.sendRequest o with
  | error e => exact .inl ⟨e, rfl, rfl⟩
  | ok handed =>
    refine .inr ⟨handed.2.context, ?_⟩
    rw [run_cons, run_cons, run_nil]
    dsimp only [apply]
    rw [hsent]
    rfl

theorem sendRequest_ne_frame (b : Bridge) (o : Client.Outbound) (e : Frame.Error) :
    b.sendRequest o ≠ .error (.frame e) := by
  unfold sendRequest sendFrame
  split
  · simp
  · split <;> simp

/-- In every state a request is in flight, or it has ended in one step; the terminal action that
it has got belongs to its ending and to whether its peer was gone in that step, it never changes
any more, and it is no response if the peer was gone before. This is so for all requests of every
history. No client is ever handed bytes that are no response, and a peer that gives up changes
what it is told itself at most. -/
theorem every_request_ends_rightly (profile : Profile) :
    (∀ os b, Unfolds (Bridge.new profile) os b →
      ∀ call ∈ arrivals os, ∀ c, call.context = some c →
        ((c ∈ b.inFlight ∧ b.engine.terminalOf? c = none) ∨
          ∃ ending gone, DepartsBetween (Bridge.new profile) b ⟨some c, call.flag, ending, gone⟩ ∧
            b.engine.Ended c ending gone) ∧
        ∀ os' b', Unfolds b os' b' →
          (∀ T, b.engine.terminalOf? c = some T → b'.engine.terminalOf? c = some T) ∧
          (b.engine.terminalOf? c = none → b.engine.isCancelled call.flag = true →
            b'.engine.terminalOf? c = none ∨ b'.engine.terminalOf? c = some (.released c))) ∧
    ∀ h : List Move,
      let b := (Bridge.new profile).run h
      (∃ os, Unfolds (Bridge.new profile) os b ∧
        arrivals os = (Bridge.new profile).inbounds h) ∧
      (∀ attached withContext withFlag cancelled route frame reason c,
        let handed := b.handOver attached withContext withFlag cancelled route frame
        b.admission attached handed.2 = .error reason → handed.2.context = some c →
          handed.1.engine.Ended c (.rejected reason)
            (handed.1.engine.isCancelled handed.2.flag)) ∧
      (∀ t ∈ b.tasks, ∀ result c, t.begun = true → t.act.end? = some result →
        t.context = some c →
          (b.advance t.id).engine.Ended c (.settled result) (b.engine.isCancelled t.flag)) ∧
      (∀ t ∈ b.tasks, ∀ c, t.context = some c →
        b.halt.engine.terminalOf? c = some (.released c)) ∧
      (∀ millis c e, b.answer millis c ≠ .error (.frame e)) ∧
      (∀ millis o e, (b.send millis o).2 ≠ .error (.frame e)) ∧
      ∀ (after : List Move) (f : Address),
        ∀ call ∈ (Bridge.new profile).inbounds (h ++ after), ∀ c, call.context = some c →
          call.flag ≠ some f →
            ((Bridge.new profile).run (h ++ .cancel f :: after)).engine.terminalOf? c =
              ((Bridge.new profile).run (h ++ after)).engine.terminalOf? c := by
  refine ⟨?_, ?_⟩
  · intro os b hos call hcall c hc
    have l := (ledger_new profile).unfolds hos
    refine ⟨?_, ?_⟩
    · refine (ended_in_one_step hos hcall hc).imp_right ?_
      rintro ⟨ending, gone, hdeparts, hterminal⟩
      exact ⟨ending, gone, hdeparts, Engine.ended_of_terminalOf? hterminal⟩
    · intro os' b' hos'
      exact ⟨fun T => hos'.terminalOf?_stays l.orderly, l.released_if_gone hos' hcall hc⟩
  intro h
  obtain ⟨os, hos, harrivals, l⟩ := ledger_run profile h
  have hafter : ∀ o millis c e, (((Bridge.new profile).run h).run
      [.sendRequest o, .drive]).answer millis c ≠ .error (.frame e) := by
    intro o millis c e
    obtain ⟨_, _, _, l'⟩ := ledger_run profile (h ++ [.sendRequest o, .drive])
    rw [run_append] at l'
    exact l'.answer_ne_frame millis c e
  refine ⟨⟨os, hos, harrivals⟩, ?_⟩
  clear hos harrivals
  refine ⟨?_, ?_, ?_, ?_, ?_, ?_⟩
  · intro attached withContext withFlag cancelled route frame reason c handed hadmission hc
    have hcases := ((Bridge.new profile).run h).handOver_cases attached withContext withFlag
      cancelled route frame
    dsimp only at hcases
    rw [hadmission] at hcases
    obtain ⟨⟨gone, happens⟩, _⟩ := hcases
    exact l.ended happens (List.mem_singleton.mpr rfl) hc
  · intro t ht result c hbegun hend hc
    have hfind := task?_of_mem l.orderly.distinct ht
    have happens := Happens.finish hfind hbegun hend
    have hended := l.ended happens (List.mem_singleton.mpr rfl) hc
    rw [finish_engine] at hended
    rw [advance_finish hfind hbegun hend, finish_engine]
    exact hended
  · intro t ht c
    exact l.released_halt ht
  · exact fun millis c e => l.answer_ne_frame millis c e
  · intro millis o e
    rcases send_cases ((Bridge.new profile).run h) millis o with ⟨e', hsent, hsend⟩ | ⟨c, hsend⟩
    · rw [hsend]
      intro hframe
      cases hframe
      exact sendRequest_ne_frame _ o e hsent
    · rw [hsend]
      exact hafter o millis c e
  · intro after f call hcall c hc hflag
    exact terminalOf?_cancel profile h after f hcall hc hflag

end Bridge
end RequestBridge
