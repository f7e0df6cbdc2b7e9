import RequestBridge.Bridge.Tasks
import RequestBridge.Proofs.Dispatch.Admission
import RequestBridge.Proofs.Engine.Journal

/-! How requests come to their ends.

There are three ways: a request is rejected, its chain comes to a result, or its task is
dropped. What the engine is told is the same in all of them but for the response
(`Departure.calls`): the peer is asked for, the one terminal action is taken, and the flag is
let go. -/
namespace RequestBridge

/-- How a request comes to its end. -/
inductive Ending where
  | rejected (reason : Rejection)
  /-- Its chain has come to a result, or has panicked. -/
  | settled (result : Except Payload Outcome)
  /-- Its task was dropped with the chain unfinished. -/
  | dropped

namespace Ending

/-- What its peer is to be told, if anything. -/
def response? : Ending → Option Response
  | .rejected reason => some reason.response
  | .settled result => some (.ofResult result)
  | .dropped => none

/-- The terminal action that goes with the end of a request. -/
def terminal (ending : Ending) (context : Address) (gone : Bool) : Terminal :=
  match ending.response? with
  | some response =>
    if gone then .released context
    else .completed context (Frame.encodeResponse response.fitted.1)
  | none => .released context

@[simp] theorem context_terminal (ending : Ending) (context : Address) (gone : Bool) :
    (ending.terminal context gone).context = context := by
  unfold terminal
  split
  · split <;> rfl
  · rfl

theorem terminal_gone (ending : Ending) (context : Address) :
    ending.terminal context true = .released context := by
  unfold terminal
  split <;> rfl

/-- Where there is something to tell, it is told as an engine tells it. -/
theorem terminal_of_response {ending : Ending} {r : Response} (h : ending.response? = some r)
    (e : Engine) (context : Address) (flag : Option Address) :
    ending.terminal context (e.isCancelled flag) = e.closing context r flag := by
  rw [terminal, h]
  rfl

end Ending

/-- The end of one request. -/
structure Departure where
  context : Option Address
  flag : Option Address
  ending : Ending
  /-- Whether its peer counted as gone at that moment. -/
  gone : Bool

namespace Departure

def terminal? (d : Departure) : Option Terminal :=
  d.context.map fun context => d.ending.terminal context d.gone

/-- The question that comes before the terminal action, if there is something to tell. -/
def question (d : Departure) : List Call :=
  if d.context.isSome ∧ d.ending.response?.isSome then Engine.asking d.flag else []

/-- The calls with which a request ends, the latest first. -/
def calls (d : Departure) (others : List Address) : List Call :=
  Engine.freeing d.flag others ++ (d.terminal?.toList.map Terminal.call ++ d.question)

theorem terminals_calls (d : Departure) (others : List Address) :
    (d.calls others).reverse.filterMap Call.terminal? = d.terminal?.toList := by
  have hquestion : d.question.filterMap Call.terminal? = [] := by
    unfold question
    split
    · exact Engine.terminal?_asking d.flag
    · rfl
  rw [List.filterMap_reverse, calls, List.filterMap_append, List.filterMap_append,
    Engine.terminal?_freeing, hquestion]
  cases d.terminal? with
  | none => rfl
  | some t => simp [Terminal.terminal?_call]

end Departure

namespace Bridge

theorem answered_engine (ending : Ending) {r : Response} (h : ending.response? = some r)
    (e : Engine) (context flag : Option Address) (others : List Address) :
    ((CompletionToken.mk context).complete e r flag).2.engine.letGo flag others =
      e.noted (Departure.calls ⟨context, flag, ending, e.isCancelled flag⟩ others) := by
  rw [Engine.letGo_eq, Engine.complete_eq, Engine.noted_noted]
  cases context with
  | none => rfl
  | some c => simp [Departure.calls, Departure.terminal?, Departure.question, h,
      Ending.terminal_of_response h]

theorem reject_engine (b : Bridge) (call : Inbound) (reason : Rejection) :
    (b.reject call reason).engine = b.engine.noted
      (Departure.calls
        ⟨call.context, call.flag, .rejected reason, b.engine.isCancelled call.flag⟩ b.flags) :=
  answered_engine (.rejected reason) rfl b.engine call.context call.flag b.flags

theorem finish_engine (b : Bridge) (t : Task) (result : Except Payload Outcome) :
    (b.finish t result).engine = b.engine.noted
      (Departure.calls ⟨t.context, t.flag, .settled result, b.engine.isCancelled t.flag⟩
        (b.flagsWithout t)) := by
  have h := answered_engine (.settled result) rfl b.engine t.context t.flag
    (b.flagsWithout t)
  rw [← settle_response t.route result] at h
  exact h

theorem discard_engine (b : Bridge) (t : Task) :
    (b.discard t).engine = b.engine.noted
      (Departure.calls ⟨t.context, t.flag, .dropped, b.engine.isCancelled t.flag⟩
        (b.flagsWithout t)) := by
  show Engine.letGo ((CompletionToken.mk t.context).drop b.engine).1 t.flag (b.flagsWithout t) = _
  rw [Engine.letGo_eq, Engine.drop_eq, Engine.noted_noted]
  cases t.context with
  | none => rfl
  | some c => simp [Departure.calls, Departure.terminal?, Departure.question, Ending.terminal,
      Ending.response?]

end Bridge
end RequestBridge
