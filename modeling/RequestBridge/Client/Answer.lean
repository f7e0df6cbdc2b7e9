import RequestBridge.Frame.Response
import RequestBridge.Json.Reader

/-! What a client has in hand once its request is over: an answer, or the reason that
there is none. -/
namespace RequestBridge.Client

/-- Why a client has no answer, or cannot read the one it has. -/
inductive Error where
  /-- No server takes requests. -/
  | notRunning
  | noRoute (method : Method) (path : String)
  /-- The bytes that came back are no response. -/
  | frame (e : Frame.Error)
  /-- Nothing came back in the given milliseconds. -/
  | timeout (millis : Nat)
  | bodyRead (e : Utf8.Error)
  | json (f : Fault)
deriving DecidableEq, Repr

def Error.message : Error → String
  | .notRunning => "no dispatcher attached; start a server first"
  | .noRoute method path => "no route registered for " ++ method.name ++ " " ++ path
  | .frame e => "invalid response frame: " ++ e.message
  | .timeout millis => s!"no terminal action within {millis}ms"
  | .bodyRead e => "body read error: Invalid UTF-8: " ++ e.message
  | .json .syntaxError => "JSON error: syntax"
  | .json .ended => "JSON error: the text ends early"

/-- The end of one request as its client sees it. -/
structure Answer where
  status : UInt16
  body : Bytes
  /-- Whether a response came back, and not only the news that there is none. -/
  sent : Bool
deriving DecidableEq, Repr

namespace Answer

def ofResponse (r : Response) : Answer := ⟨r.status, r.body, true⟩

/-- A request that was let go without a response reads as one whose peer has left. -/
def released : Answer := { ofResponse .clientClosed with sent := false }

def isSuccess (a : Answer) : Bool := 200 ≤ a.status && a.status < 300

def isServerError (a : Answer) : Bool := 500 ≤ a.status && a.status < 600

/-- The body as text. -/
def text (a : Answer) : Except Error String := (Utf8.decode a.body).mapError .bodyRead

/-- The body as a document. -/
def json (a : Answer) : Except Error Document := (Json.parse a.body).mapError .json

/-- The report on two values that should have been the same. -/
def mismatch (what left right : String) : String :=
  "assertion `left == right` failed: " ++ what ++ "\n  left: " ++ left ++ "\n right: " ++ right

/-- Checks the status; a failure says what it is and what it should be. -/
def expectStatus (a : Answer) (expected : UInt16) : Except String Unit :=
  if a.status = expected then .ok ()
  else .error <| mismatch
    (s!"Expected status {expected}, got {a.status} (body: " ++ Quoted.bytes a.body ++ ")")
    (toString a.status) (toString expected)

/-- Checks the body against a text, byte by byte. -/
def expectText (a : Answer) (expected : String) : Except String Unit :=
  if a.body = Utf8.encode expected then .ok ()
  else .error <| mismatch
    ("Expected body " ++ Quoted.text expected ++ ", got " ++ Quoted.bytes a.body)
    (Quoted.list (a.body.map toString)) (Quoted.list ((Utf8.encode expected).map toString))

end Answer
end RequestBridge.Client
