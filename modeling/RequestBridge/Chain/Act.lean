import RequestBridge.Log.Event

/-! Chains in progress.

An `Act` is what is left to do of a chain, as a tree of its next steps: it ends with
a value or a panic, or does one thing and goes on. Only `poll` has more than one way
to go on, since whether the peer still waits is known only at that moment. -/
namespace RequestBridge

/-- What a panic carries: a text, or something that cannot be shown. -/
inductive Payload where
  | text (s : String)
  | mute
deriving DecidableEq, Repr

def Payload.text? : Payload → Option String
  | .text s => some s
  | .mute => none

inductive Act (α : Type) where
  | done (value : α)
  | panic (payload : Payload)
  /-- Leaves a mark on the trace. -/
  | mark (text : String) (rest : Act α)
  | log (event : Log.Event) (rest : Act α)
  /-- Goes on once the gate is open. -/
  | wait (gate : String) (rest : Act α)
  /-- Lets others run, and goes on. -/
  | pause (rest : Act α)
  /-- Asks whether the peer has given the request up. -/
  | poll (rest : Bool → Act α)
  /-- Gives a copy of the cancellation token away, for good. -/
  | share (rest : Act α)

namespace Act
variable {α β γ : Type}

/-- The act `a`, followed by `f` of its value. A panic of `a` is the panic of the whole. -/
def bind (a : Act α) (f : α → Act β) : Act β :=
  match a with
  | .done value => f value
  | .panic payload => .panic payload
  | .mark text rest => .mark text (rest.bind f)
  | .log event rest => .log event (rest.bind f)
  | .wait gate rest => .wait gate (rest.bind f)
  | .pause rest => .pause (rest.bind f)
  | .poll rest => .poll fun cancelled => (rest cancelled).bind f
  | .share rest => .share (rest.bind f)

instance : Monad Act where
  pure := .done
  bind := bind

@[simp] theorem pure_bind (a : α) (f : α → Act β) : (Act.done a).bind f = f a := rfl

@[simp] theorem bind_done (a : Act α) : a.bind .done = a := by
  induction a with
  | done | panic => rfl
  | poll rest ih => simp [bind, ih]
  | _ => simp_all [bind]

theorem bind_assoc (a : Act α) (f : α → Act β) (g : β → Act γ) :
    (a.bind f).bind g = a.bind fun x => (f x).bind g := by
  induction a with
  | done | panic => rfl
  | poll rest ih => simp [bind, ih]
  | _ => simp_all [bind]

/-- How often an act pauses at most. -/
def pauses : Act α → Nat
  | .done _ => 0
  | .panic _ => 0
  | .mark _ rest => rest.pauses
  | .log _ rest => rest.pauses
  | .wait _ rest => rest.pauses
  | .pause rest => rest.pauses + 1
  | .poll rest => max (rest true).pauses (rest false).pauses
  | .share rest => rest.pauses

/-- What running an act leaves behind. -/
structure Run (α : Type) where
  result : Except Payload α
  marks : List String
  events : List Log.Event

/-- The act run on its own, with every gate open and one answer for every poll. -/
def run (cancelled : Bool) : Act α → Run α
  | .done value => ⟨.ok value, [], []⟩
  | .panic payload => ⟨.error payload, [], []⟩
  | .mark text rest =>
    let r := rest.run cancelled
    { r with marks := text :: r.marks }
  | .log event rest =>
    let r := rest.run cancelled
    { r with events := event :: r.events }
  | .wait _ rest => rest.run cancelled
  | .pause rest => rest.run cancelled
  | .poll rest => (rest cancelled).run cancelled
  | .share rest => rest.run cancelled

/-- The run of one act followed by another. -/
theorem run_bind (cancelled : Bool) (a : Act α) (f : α → Act β) :
    (a.bind f).run cancelled =
      match (a.run cancelled).result with
      | .ok value =>
        let r := (f value).run cancelled
        { r with
          marks := (a.run cancelled).marks ++ r.marks
          events := (a.run cancelled).events ++ r.events }
      | .error payload => ⟨.error payload, (a.run cancelled).marks, (a.run cancelled).events⟩ := by
  induction a with
  | done value => simp [bind, run]
  | panic payload => rfl
  | mark text rest ih => simp only [bind, run, ih]; split <;> simp
  | log event rest ih => simp only [bind, run, ih]; split <;> simp
  | wait gate rest ih => simp only [bind, run, ih]
  | pause rest ih => simp only [bind, run, ih]
  | poll rest ih => simp only [bind, run, ih]
  | share rest ih => simp only [bind, run, ih]

end Act
end RequestBridge
