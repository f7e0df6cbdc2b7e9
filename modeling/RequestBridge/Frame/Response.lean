import RequestBridge.Frame.Request
import RequestBridge.Response

/-! Response frames: a status and a body. No limit applies when one is read. -/
namespace RequestBridge.Frame

def encodeResponse (r : Response) : Bytes :=
  digits 2 r.status.toNat ++ lengthDigits r.body ++ r.body

/-- The response that a frame holds. Bytes after the body are not looked at. -/
def decodeResponse (bytes : Bytes) : Except Error Response := do
  let (status, rest) ← takeNumber .status 2 bytes
  let (body, _) ← takeBody rest
  return { status := UInt16.ofNat status, body }

end RequestBridge.Frame
