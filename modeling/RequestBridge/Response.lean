import RequestBridge.Text.Quoted

/-! What a chain answers: a status and a body. -/
namespace RequestBridge

structure Response where
  status : UInt16
  body : Bytes
deriving DecidableEq, Repr

namespace Response

def empty (status : UInt16) : Response := ⟨status, []⟩

/-- Status 200 with a text. -/
def ok (text : String) : Response := ⟨200, Utf8.encode text⟩

/-- Status 500 with a text: the answer to a failure on this side. -/
def serverError (text : String) : Response := ⟨500, Utf8.encode text⟩

/-- Status 499 with nothing: the answer to a peer that has left. -/
def clientClosed : Response := empty 499

/-- The body as text, if it is text. -/
def text? (r : Response) : Option String := Utf8.decode? r.body

def withStatus (r : Response) (status : UInt16) : Response := { r with status }

def describe (r : Response) : String :=
  Quoted.record "Response" [("status", toString r.status), ("body", Quoted.bytes r.body)]

end Response
end RequestBridge
