import RequestBridge.Text.Quoted

/-! Frames, the wire format of requests and responses.

A frame is a sequence of fields. Numbers are little-endian; a path and a body each
follow their length. Reading a frame takes its fields one by one and ends at the
first that is not there in full. -/
namespace RequestBridge.Frame

/-- The longest request frame that a reader accepts. -/
structure Limits where
  maxLength : Nat := 16777216
deriving DecidableEq, Repr

/-- The fields of both kinds of frame. -/
inductive Field where
  | method
  | pathLength
  | path
  | status
  | bodyLength
  | body
deriving DecidableEq, Repr

def Field.name : Field → String
  | .method => "method"
  | .pathLength => "path length"
  | .path => "path"
  | .status => "status"
  | .bodyLength => "body length"
  | .body => "body"

/-- Why bytes are no frame. -/
inductive Error where
  /-- A field needs more bytes than are left. -/
  | truncated (field : Field) (needed available : Nat)
  | invalidUtf8
  | unknownMethod (code : UInt8)
  | tooLarge (length maxLength : Nat)
deriving DecidableEq, Repr

def Error.message : Error → String
  | .truncated field needed available =>
    "frame truncated reading " ++ field.name ++ s!": need {needed} bytes, {available} available"
  | .invalidUtf8 => "request path is not valid UTF-8"
  | .unknownMethod code => s!"unknown method code {code}"
  | .tooLarge length maxLength => s!"frame of {length} bytes exceeds limit of {maxLength} bytes"

/-- The reading of the next `n` bytes as the given field, with the bytes that follow. -/
def take (field : Field) (n : Nat) (bytes : Bytes) : Except Error (Bytes × Bytes) :=
  if bytes.length < n then .error (.truncated field n bytes.length)
  else .ok (bytes.take n, bytes.drop n)

/-- The number that little-endian bytes stand for. -/
def number (bytes : Bytes) : Nat := bytes.foldr (fun b n => b.toNat + 256 * n) 0

/-- The `width` little-endian bytes of a number; what does not fit is lost. -/
def digits : Nat → Nat → Bytes
  | 0, _ => []
  | width + 1, n => UInt8.ofNat n :: digits width (n / 256)

/-- The reading of a `width`-byte number, with the bytes that follow. -/
def takeNumber (field : Field) (width : Nat) (bytes : Bytes) : Except Error (Nat × Bytes) :=
  (take field width bytes).map fun (word, rest) => (number word, rest)

/-- The length of the longest path and the longest body that a frame can hold. -/
def maxField : Nat := 4294967295

/-- The four bytes that tell a length. A length beyond the longest is told as the longest. -/
def lengthDigits (bytes : Bytes) : Bytes := digits 4 (min bytes.length maxField)

theorem take_eq_ok_iff {field : Field} {n : Nat} {bytes word rest : Bytes} :
    take field n bytes = .ok (word, rest) ↔ word.length = n ∧ bytes = word ++ rest := by
  unfold take
  split
  · next h =>
    simp only [reduceCtorEq, false_iff, not_and]
    rintro hn rfl
    simp only [List.length_append] at h
    omega
  · next h =>
    simp only [Except.ok.injEq, Prod.mk.injEq]
    constructor
    · rintro ⟨rfl, rfl⟩
      exact ⟨by simp only [List.length_take]; omega, (List.take_append_drop ..).symm⟩
    · rintro ⟨rfl, rfl⟩
      simp

theorem take_eq_error_iff {field : Field} {n : Nat} {bytes : Bytes} {e : Error} :
    take field n bytes = .error e ↔ bytes.length < n ∧ e = .truncated field n bytes.length := by
  unfold take
  split
  · next h => simp [h, eq_comm]
  · next h => simp [h]

@[simp] theorem length_digits (width n : Nat) : (digits width n).length = width := by
  induction width generalizing n with
  | zero => rfl
  | succ w ih => simp [digits, ih]

end RequestBridge.Frame
