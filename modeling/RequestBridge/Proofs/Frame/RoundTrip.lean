import RequestBridge.Frame.Response
import RequestBridge.Proofs.Text.Utf8
import Mathlib.Algebra.Group.Nat.Defs

/-! What is written into a frame is read from it.

Each field is read back from the bytes that were written for it, whatever follows it, so a frame
gives back its request or its response (`decodeRequest_encodeRequest`,
`decodeResponse_encodeResponse`). A length is told in four bytes, and what is longer than four
bytes can tell is not read back. -/
namespace RequestBridge.Frame

/-! ### Numbers -/

theorem number_digits (width n : Nat) (h : n < 256 ^ width) : number (digits width n) = n := by
  induction width generalizing n with
  | zero =>
    simp only [Nat.pow_zero] at h
    have hn : n = 0 := by omega
    rw [hn]
    rfl
  | succ w ih =>
    have hdiv : n / 256 < 256 ^ w := by
      rw [Nat.pow_succ] at h
      omega
    have hlow : (UInt8.ofNat n).toNat = n % 256 := UInt8.toNat_ofNat' ..
    show (UInt8.ofNat n).toNat + 256 * number (digits w (n / 256)) = n
    rw [ih _ hdiv, hlow]
    omega

/-- The bytes of a field are taken off the front. -/
theorem take_append (field : Field) (word rest : Bytes) :
    take field word.length (word ++ rest) = .ok (word, rest) :=
  take_eq_ok_iff.mpr ⟨rfl, rfl⟩

theorem takeNumber_digits (field : Field) (width n : Nat) (rest : Bytes) (h : n < 256 ^ width) :
    takeNumber field width (digits width n ++ rest) = .ok (n, rest) := by
  have htake : take field width (digits width n ++ rest) = .ok (digits width n, rest) :=
    take_eq_ok_iff.mpr ⟨length_digits width n, rfl⟩
  rw [takeNumber, htake]
  show Except.ok (number (digits width n), rest) = _
  rw [number_digits width n h]

theorem takeNumber_lengthDigits (field : Field) (bytes rest : Bytes) (h : bytes.length ≤ maxField) :
    takeNumber field 4 (lengthDigits bytes ++ rest) = .ok (bytes.length, rest) := by
  have hmin : min bytes.length maxField = bytes.length := Nat.min_eq_left h
  rw [lengthDigits, hmin]
  exact takeNumber_digits field 4 _ rest (Nat.lt_of_le_of_lt h (by decide))

/-! ### Fields of both kinds of frame -/

theorem takeBody_append (body rest : Bytes) (h : body.length ≤ maxField) :
    takeBody (lengthDigits body ++ body ++ rest) = .ok (body, rest) := by
  rw [List.append_assoc]
  simp only [takeBody, takeNumber_lengthDigits .bodyLength body _ h, bind, Except.bind]
  exact take_append .body body rest

theorem takePath_append (path : String) (rest : Bytes)
    (h : (Utf8.encode path).length ≤ maxField) :
    takePath (lengthDigits (Utf8.encode path) ++ Utf8.encode path ++ rest) = .ok (path, rest) := by
  rw [List.append_assoc]
  simp only [takePath, takeNumber_lengthDigits .pathLength _ _ h, bind, Except.bind,
    take_append .path, Utf8.decode?_encode]

theorem takeMethod_cons (m : Method) (rest : Bytes) :
    takeMethod (m.code :: rest) = .ok (m, rest) := by
  have htake : take .method 1 (m.code :: rest) = .ok ([m.code], rest) :=
    take_append .method [m.code] rest
  have hcode : Method.ofCode? m.code = some m := Method.ofCode?_eq_some_iff.mpr rfl
  simp only [takeMethod, htake, bind, Except.bind, List.headD_cons, hcode]

/-! ### Whole frames -/

theorem length_lengthDigits (bytes : Bytes) : (lengthDigits bytes).length = 4 :=
  length_digits 4 _

theorem length_encodeRequest (r : Request) :
    (encodeRequest r).length = 9 + (Utf8.encode r.path).length + r.body.length := by
  simp only [encodeRequest, List.length_cons, List.length_append, length_lengthDigits]
  omega

/-- A request is read from its frame, whatever follows the frame within the limit. -/
theorem decodeRequest_encodeRequest (limits : Limits) (r : Request) (rest : Bytes)
    (hpath : (Utf8.encode r.path).length ≤ maxField) (hbody : r.body.length ≤ maxField)
    (hlimit : (encodeRequest r ++ rest).length ≤ limits.maxLength) :
    decodeRequest limits (encodeRequest r ++ rest) = .ok r := by
  have hframe : encodeRequest r ++ rest = r.method.code ::
      (lengthDigits (Utf8.encode r.path) ++ Utf8.encode r.path ++
        (lengthDigits r.body ++ r.body ++ rest)) := by
    simp [encodeRequest]
  have hfits : ¬ limits.maxLength < (encodeRequest r ++ rest).length := Nat.not_lt.mpr hlimit
  rw [decodeRequest, if_neg hfits, hframe]
  simp only [takeMethod_cons, takePath_append r.path _ hpath, takeBody_append r.body rest hbody,
    bind, Except.bind, pure, Except.pure]

theorem length_encodeResponse (r : Response) :
    (encodeResponse r).length = 6 + r.body.length := by
  simp only [encodeResponse, List.length_append, length_digits, length_lengthDigits]

/-- A response is read from its frame, whatever follows the frame. -/
theorem decodeResponse_encodeResponse (r : Response) (rest : Bytes)
    (hbody : r.body.length ≤ maxField) : decodeResponse (encodeResponse r ++ rest) = .ok r := by
  have hframe : encodeResponse r ++ rest =
      digits 2 r.status.toNat ++ (lengthDigits r.body ++ r.body ++ rest) := by
    simp [encodeResponse]
  have hstatus : r.status.toNat < 256 ^ 2 := r.status.toNat_lt
  rw [hframe, decodeResponse]
  simp only [takeNumber_digits .status 2 _ _ hstatus, takeBody_append r.body rest hbody, bind,
    Except.bind, pure, Except.pure, UInt16.ofNat_toNat]

end RequestBridge.Frame
