import RequestBridge.Chain.Act
import RequestBridge.Failure
import RequestBridge.Request

/-! Stages around a handler.

A stage looks at the request it is given and decides: it answers itself, or passes a
request on, together with what it will make of the outcome. So what lies inside a
stage runs at most once, and entirely between the two halves of the stage. -/
namespace RequestBridge

abbrev Handler := Request → Act Outcome

/-- What a stage decides on being entered. If it passes a request on, it waits for what lies
inside to come to its end, and goes on with the outcome. -/
inductive Decision where
  | answer (outcome : Outcome)
  | forward (request : Request) (after : Outcome → Act Outcome)

/-- A stage. It calls what lies inside it at most once, and waits for what it has called to its
end. A stage that drops what it has called, or lets it race against something else, is outside
of this model. -/
structure Middleware where
  name : String
  enter : Request → Act Decision

/-- The stage around what lies inside it. -/
def Middleware.around (m : Middleware) (inner : Handler) : Handler := fun request =>
  (m.enter request).bind fun
    | .answer outcome => .done outcome
    | .forward request after => (inner request).bind after

/-- Stages, the outermost first, around a handler. -/
structure Pipeline where
  stages : List Middleware
  handler : Handler

namespace Pipeline

/-- The whole chain as one handler. -/
def start (p : Pipeline) : Handler := p.stages.foldr Middleware.around p.handler

def names (p : Pipeline) : List String := p.stages.map (·.name)

def describe (p : Pipeline) : String :=
  Quoted.openRecord "Pipeline" [("stages", Quoted.list (p.names.map Quoted.text))]

@[simp] theorem start_nil (h : Handler) : (Pipeline.mk [] h).start = h := rfl

@[simp] theorem start_cons (m : Middleware) (ms : List Middleware) (h : Handler) :
    (Pipeline.mk (m :: ms) h).start = m.around (Pipeline.mk ms h).start := rfl

theorem start_append (ms ns : List Middleware) (h : Handler) :
    (Pipeline.mk (ms ++ ns) h).start = (Pipeline.mk ms (Pipeline.mk ns h).start).start := by
  simp [start]

end Pipeline
end RequestBridge
