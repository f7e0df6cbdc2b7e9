import RequestBridge.Dispatch.Completion
import RequestBridge.Engine.View

/-! What is read off the journal of an engine, call by call.

An operation on a request changes nothing at the engine but its journal, so each of them is
the note of a few calls (`Engine.noted`). The terminal actions, the flags that were freed and
the questions that were asked are all views of the journal, and what a note adds to each of
these views is said here once. -/
namespace RequestBridge

/-- The call that is a terminal action. -/
def Terminal.call : Terminal → Call
  | .completed context frame => .completed context frame
  | .released context => .released context

theorem Terminal.terminal?_call (t : Terminal) : t.call.terminal? = some t := by
  cases t <;> rfl

theorem Terminal.call_ne_flagFreed (t : Terminal) (f : Address) : t.call ≠ .flagFreed f := by
  cases t <;> simp [call]

theorem Terminal.call_ne_asked (t : Terminal) (f : Address) : t.call ≠ .asked f := by
  cases t <;> simp [call]

namespace Engine

/-- The engine with more calls in its journal, the latest first. -/
def noted (e : Engine) (calls : List Call) : Engine := { e with journal := calls ++ e.journal }

theorem noted_noted (e : Engine) (calls later : List Call) :
    (e.noted calls).noted later = e.noted (later ++ calls) := by
  simp [noted]

/-- The question whether a peer has given up, where there is a flag to ask. -/
def asking (flag : Option Address) : List Call := flag.toList.map .asked

/-- The freeing of a flag that no one else holds. -/
def freeing (flag : Option Address) (others : List Address) : List Call :=
  match flag with
  | some f => if f ∈ others then [] else [.flagFreed f]
  | none => []

theorem ask_eq (e : Engine) (flag : Option Address) :
    e.ask flag = (e.noted (asking flag), e.isCancelled flag) := by
  cases flag <;> rfl

theorem letGo_eq (e : Engine) (flag : Option Address) (others : List Address) :
    e.letGo flag others = e.noted (freeing flag others) := by
  cases flag with
  | none => rfl
  | some f =>
    unfold letGo freeing
    dsimp only
    split <;> rfl

/-- The terminal action with which a request is answered: a response frame, unless its peer
counts as gone. -/
def closing (e : Engine) (context : Address) (r : Response) (flag : Option Address) : Terminal :=
  if e.isCancelled flag then .released context
  else .completed context (Frame.encodeResponse r.fitted.1)

theorem context_closing (e : Engine) (c : Address) (r : Response) (flag : Option Address) :
    (e.closing c r flag).context = c := by
  unfold closing
  split <;> rfl

theorem deliver_eq (e : Engine) (context : Address) (r : Response) (flag : Option Address) :
    (e.deliver context r flag).engine =
      e.noted ((e.closing context r flag).call :: asking flag) := by
  unfold deliver closing
  rw [ask_eq]
  dsimp only
  split <;> rfl

theorem complete_eq (e : Engine) (context : Option Address) (r : Response)
    (flag : Option Address) :
    ((CompletionToken.mk context).complete e r flag).2.engine =
      e.noted (match context with
        | some c => (e.closing c r flag).call :: asking flag
        | none => []) := by
  cases context with
  | none => rfl
  | some c => exact e.deliver_eq c r flag

theorem drop_eq (e : Engine) (context : Option Address) :
    ((CompletionToken.mk context).drop e).1 =
      e.noted (context.toList.map fun c => (Terminal.released c).call) := by
  cases context <;> rfl

/-! ### Views -/

theorem terminals_noted (e : Engine) (calls : List Call) :
    (e.noted calls).terminals = e.terminals ++ calls.reverse.filterMap Call.terminal? := by
  simp [terminals, noted]

theorem terminal?_asking (flag : Option Address) :
    (asking flag).filterMap Call.terminal? = [] := by
  cases flag <;> rfl

theorem terminal?_closed (t : Terminal) (flag : Option Address) :
    (t.call :: asking flag).reverse.filterMap Call.terminal? = [t] := by
  rw [List.filterMap_reverse, List.filterMap_cons_some t.terminal?_call, terminal?_asking]
  rfl

theorem terminal?_freeing (flag : Option Address) (others : List Address) :
    (freeing flag others).filterMap Call.terminal? = [] := by
  unfold freeing
  split
  · split <;> rfl
  · rfl

end Engine
end RequestBridge
