import RequestBridge.Chain.Pipeline

/-! A stock of stages. -/
namespace RequestBridge.Middleware

/-- A stage that passes its request on and hands the outcome to `after`. -/
def afterwards (name : String) (after : Outcome → Act Outcome) : Middleware where
  name
  enter request := .done (.forward request after)

/-- A stage that passes on a changed request, and leaves the outcome as it is. -/
def changing (name : String) (change : Request → Request) : Middleware where
  name
  enter request := .done (.forward (change request) .done)

/-- The failure to raise when a poll says that the peer is gone. -/
def unlessCancelled {α : Type} (go : Act α) (stop : Act α) : Act α :=
  .poll fun cancelled => if cancelled then stop else go

def pass (name : String) : Middleware := changing name id

/-- Marks the way in and the way out. -/
def tracing (name : String) : Middleware where
  name
  enter request := .mark (name ++ ">") <| .done <|
    .forward request fun outcome => .mark ("<" ++ name) (.done outcome)

/-- Fails every request. -/
def deny (name : String) (failure : Failure) : Middleware where
  name
  enter _ := .done (.answer (.error failure))

/-- Answers every request. -/
def answering (name : String) (response : Response) : Middleware where
  name
  enter _ := .done (.answer (.ok response))

/-- Puts a text in front of the path. -/
def underPath (name front : String) : Middleware :=
  changing name fun request => { request with path := front ++ request.path }

def replacingBody (name : String) (body : Bytes) : Middleware :=
  changing name fun request => { request with body }

/-- Lets no request through that has no body. -/
def requiringBody (name : String) : Middleware where
  name
  enter request :=
    if request.body.isEmpty then
      .done (.answer (.error (.http ⟨401, Utf8.encode "unauthorized"⟩)))
    else .done (.forward request .done)

/-- Turns any failure into an answer with its text. -/
def recovering (name : String) (status : UInt16) : Middleware :=
  afterwards name fun
    | .ok response => .done (.ok response)
    | .error failure => .done (.ok ⟨status, Utf8.encode failure.message⟩)

/-- Puts a chosen failure in the place of an unforeseen one. -/
def translating (name : String) (failure : Failure) : Middleware :=
  afterwards name fun
    | .error (.other _) => .done (.error failure)
    | outcome => .done outcome

/-- Puts a context around an unforeseen failure. -/
def explaining (name context : String) : Middleware :=
  afterwards name fun
    | .error (.other report) => .done (.error (.other (report.within context)))
    | outcome => .done outcome

def settingStatus (name : String) (status : UInt16) : Middleware :=
  afterwards name fun outcome => .done (outcome.map (·.withStatus status))

def appending (name : String) (tail : Bytes) : Middleware :=
  afterwards name fun outcome =>
    .done (outcome.map fun response => { response with body := response.body ++ tail })

/-- Asks on the way in whether the peer still waits. -/
def checkingBefore (name : String) : Middleware where
  name
  enter request :=
    unlessCancelled (.done (.forward request .done)) (.done (.answer (.error .cancelled)))

/-- Asks on the way out whether the peer still waits. -/
def checkingAfter (name : String) : Middleware :=
  afterwards name fun outcome => unlessCancelled (.done outcome) (.done (.error .cancelled))

def panickingBefore (name : String) (payload : Payload) : Middleware where
  name
  enter _ := .panic payload

def panickingAfter (name : String) (payload : Payload) : Middleware :=
  afterwards name fun _ => .panic payload

/-- The event with which a request enters or leaves a logging stage. -/
def requestEvent (level : Log.Level) (message : String) (request : Request)
    (more : List (String × Log.Value)) : Log.Event where
  level
  message
  fields := [("http.method", .text request.method.name), ("http.path", .text request.path)] ++ more

/-- The event of a request that leaves a logging stage. -/
def finishedEvent (request : Request) : Outcome → Log.Event
  | .ok response =>
    requestEvent .info "request completed" request
      [("http.status_code", .number response.status.toNat)]
  | .error .cancelled => requestEvent .debug "request cancelled" request []
  | .error failure =>
    requestEvent .warn "request failed" request [("error", .text failure.message)]

/-- Logs each request on the way in and, if nothing inside panics, on the way out. -/
def logging : Middleware where
  name := "logging"
  enter request := .log (requestEvent .info "request started" request []) <| .done <|
    .forward request fun outcome => .log (finishedEvent request outcome) (.done outcome)

end RequestBridge.Middleware
