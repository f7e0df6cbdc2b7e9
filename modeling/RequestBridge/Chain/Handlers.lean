import RequestBridge.Chain.Stages

/-! Handlers as scripts: some steps, then one reply. -/
namespace RequestBridge.Handler

inductive Step where
  | mark (text : String)
  | wait (gate : String)
  | pause
  /-- Fails if the peer is gone. -/
  | check
deriving DecidableEq, Repr

inductive Reply where
  | respond (response : Response)
  | fail (failure : Failure)
  | panic (payload : Payload)
  | echoBody
  | echoPath
  /-- Method, path and body as one line of text. -/
  | echoAll
  /-- Whether the peer is gone, in words. -/
  | echoCancelled
  /-- The length of the body, in words. -/
  | length
deriving DecidableEq, Repr

def Reply.act (request : Request) : Reply → Act Outcome
  | .respond response => .done (.ok response)
  | .fail failure => .done (.error failure)
  | .panic payload => .panic payload
  | .echoBody => .done (.ok ⟨200, request.body⟩)
  | .echoPath => .done (.ok (.ok request.path))
  | .echoAll =>
    .done (.ok (.ok (request.method.name ++ " " ++ request.path ++ " " ++ Utf8.lossy request.body)))
  | .echoCancelled => .poll fun cancelled => .done (.ok (.ok (Quoted.bool cancelled)))
  | .length => .done (.ok (.ok s!"{request.body.length} bytes"))

/-- The handler that takes the steps in order and then replies. -/
def script (steps : List Step) (reply : Reply) : Handler := fun request =>
  steps.foldr (fun step rest =>
    match step with
    | .mark text => .mark text rest
    | .wait gate => .wait gate rest
    | .pause => .pause rest
    | .check => Middleware.unlessCancelled rest (.done (.error .cancelled)))
    (reply.act request)

end RequestBridge.Handler
