import RequestBridge.Frame.Basic
import RequestBridge.Request

/-! Request frames: a method code, a path and a body. -/
namespace RequestBridge.Frame

def encodeRequest (r : Request) : Bytes :=
  let path := Utf8.encode r.path
  r.method.code :: (lengthDigits path ++ path ++ lengthDigits r.body ++ r.body)

/-- The reading of a method code. -/
def takeMethod (bytes : Bytes) : Except Error (Method × Bytes) := do
  let (word, rest) ← take .method 1 bytes
  let code := word.headD 0
  match Method.ofCode? code with
  | some method => .ok (method, rest)
  | none => .error (.unknownMethod code)

/-- The reading of a path: its length, its bytes, its text. -/
def takePath (bytes : Bytes) : Except Error (String × Bytes) := do
  let (length, rest) ← takeNumber .pathLength 4 bytes
  let (path, rest) ← take .path length rest
  match Utf8.decode? path with
  | some text => .ok (text, rest)
  | none => .error .invalidUtf8

/-- The reading of a body: its length and its bytes. -/
def takeBody (bytes : Bytes) : Except Error (Bytes × Bytes) := do
  let (length, rest) ← takeNumber .bodyLength 4 bytes
  take .body length rest

/-- The request that a frame holds. Bytes after the body are not looked at. -/
def decodeRequest (limits : Limits) (bytes : Bytes) : Except Error Request := do
  if limits.maxLength < bytes.length then
    throw (.tooLarge bytes.length limits.maxLength)
  let (method, rest) ← takeMethod bytes
  let (path, rest) ← takePath rest
  let (body, _) ← takeBody rest
  return { method, path, body }

end RequestBridge.Frame
