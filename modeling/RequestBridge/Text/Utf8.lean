/-! UTF-8 text in byte lists.

`pieces` cuts any bytes into characters and the longest stretches that cannot begin
a character. Strict reading (`decode`) and reading with replacement characters
(`lossy`) are two views of the same cut. -/
namespace RequestBridge

abbrev Bytes := List UInt8

namespace Utf8

def encodeChars (cs : List Char) : Bytes := cs.flatMap String.utf8EncodeChar

def encode (s : String) : Bytes := encodeChars s.toList

/-- One step of a reading: a character, or bytes that are none. -/
inductive Piece where
  | char (c : Char)
  /-- The next `width` bytes begin no character, and a byte follows that shows it. -/
  | malformed (width : Nat)
  /-- The text ends inside a character, of which `width` bytes are there. -/
  | cut (width : Nat)
deriving DecidableEq, Repr

/-- How a character continues after its first byte: the number of bytes to come,
and the range of the first of them. -/
structure Lead where
  more : Nat
  low : UInt8
  high : UInt8

/-- The continuation that a first byte asks for. The ranges leave out the long
spellings of short characters, the surrogates, and all beyond the last character. -/
def lead? (b : UInt8) : Option Lead :=
  if 0xC2 ≤ b && b ≤ 0xDF then some ⟨1, 0x80, 0xBF⟩
  else if b == 0xE0 then some ⟨2, 0xA0, 0xBF⟩
  else if b == 0xED then some ⟨2, 0x80, 0x9F⟩
  else if 0xE1 ≤ b && b ≤ 0xEF then some ⟨2, 0x80, 0xBF⟩
  else if b == 0xF0 then some ⟨3, 0x90, 0xBF⟩
  else if 0xF1 ≤ b && b ≤ 0xF3 then some ⟨3, 0x80, 0xBF⟩
  else if b == 0xF4 then some ⟨3, 0x80, 0x8F⟩
  else none

def isContinuation (b : UInt8) : Bool := 0x80 ≤ b && b ≤ 0xBF

/-- The payload of a continuation byte. -/
def low6 (b : UInt8) : Nat := b.toNat % 64

def char2 (b₀ b₁ : UInt8) : Char := Char.ofNat (b₀.toNat % 32 * 64 + low6 b₁)

def char3 (b₀ b₁ b₂ : UInt8) : Char :=
  Char.ofNat (b₀.toNat % 16 * 4096 + low6 b₁ * 64 + low6 b₂)

def char4 (b₀ b₁ b₂ b₃ : UInt8) : Char :=
  Char.ofNat (b₀.toNat % 8 * 262144 + low6 b₁ * 4096 + low6 b₂ * 64 + low6 b₃)

/-- The pieces that are `done`, the latest of which stands first, and the cut of the bytes
behind them. -/
def piecesOnto (done : List Piece) : Bytes → List Piece
  | [] => done.reverse
  | b₀ :: rest =>
    if b₀ < 0x80 then piecesOnto (.char (Char.ofNat b₀.toNat) :: done) rest
    else match lead? b₀ with
      | none => piecesOnto (.malformed 1 :: done) rest
      | some l =>
        match rest with
        | [] => (Piece.cut 1 :: done).reverse
        | b₁ :: rest₁ =>
          if b₁ < l.low || l.high < b₁ then piecesOnto (.malformed 1 :: done) (b₁ :: rest₁)
          else if l.more = 1 then piecesOnto (.char (char2 b₀ b₁) :: done) rest₁
          else match rest₁ with
            | [] => (Piece.cut 2 :: done).reverse
            | b₂ :: rest₂ =>
              if !isContinuation b₂ then piecesOnto (.malformed 2 :: done) (b₂ :: rest₂)
              else if l.more = 2 then piecesOnto (.char (char3 b₀ b₁ b₂) :: done) rest₂
              else match rest₂ with
                | [] => (Piece.cut 3 :: done).reverse
                | b₃ :: rest₃ =>
                  if !isContinuation b₃ then piecesOnto (.malformed 3 :: done) (b₃ :: rest₃)
                  else piecesOnto (.char (char4 b₀ b₁ b₂ b₃) :: done) rest₃

/-- The cut of the bytes into characters and stretches that are none. -/
def pieces (bytes : Bytes) : List Piece := piecesOnto [] bytes

theorem piecesOnto_append (done earlier : List Piece) (bytes : Bytes) :
    piecesOnto (done ++ earlier) bytes = earlier.reverse ++ piecesOnto done bytes := by
  fun_induction piecesOnto done bytes <;> rw [piecesOnto] <;> simp_all [-UInt8.not_lt]

theorem piecesOnto_eq (done : List Piece) (bytes : Bytes) :
    piecesOnto done bytes = done.reverse ++ pieces bytes :=
  piecesOnto_append [] done bytes

@[simp] theorem pieces_nil : pieces [] = [] := rfl

/-- The cut of a text begins with what its first byte begins. -/
theorem pieces_cons (b₀ : UInt8) (rest : Bytes) :
    pieces (b₀ :: rest) =
      if b₀ < 0x80 then .char (Char.ofNat b₀.toNat) :: pieces rest
      else match lead? b₀, rest with
        | none, _ => .malformed 1 :: pieces rest
        | some _, [] => [.cut 1]
        | some l, b₁ :: rest₁ =>
          if b₁ < l.low || l.high < b₁ then .malformed 1 :: pieces (b₁ :: rest₁)
          else if l.more = 1 then .char (char2 b₀ b₁) :: pieces rest₁
          else match rest₁ with
            | [] => [.cut 2]
            | b₂ :: rest₂ =>
              if !isContinuation b₂ then .malformed 2 :: pieces (b₂ :: rest₂)
              else if l.more = 2 then .char (char3 b₀ b₁ b₂) :: pieces rest₂
              else match rest₂ with
                | [] => [.cut 3]
                | b₃ :: rest₃ =>
                  if !isContinuation b₃ then .malformed 3 :: pieces (b₃ :: rest₃)
                  else .char (char4 b₀ b₁ b₂ b₃) :: pieces rest₃ := by
  rw [pieces, piecesOnto]
  split
  · simp [piecesOnto_eq]
  · cases lead? b₀ with
    | none => simp [piecesOnto_eq]
    | some l => rcases rest with _ | ⟨b₁, _ | ⟨b₂, _ | ⟨b₃, rest₃⟩⟩⟩ <;> simp [piecesOnto_eq]

/-- Where and how bytes fail to be text. -/
inductive Error where
  | malformed (width start : Nat)
  | cut (start : Nat)
deriving DecidableEq, Repr

def Error.message : Error → String
  | .malformed width start => s!"invalid utf-8 sequence of {width} bytes from index {start}"
  | .cut start => s!"incomplete utf-8 byte sequence from index {start}"

/-- The characters that are `done`, the latest of which stands first, and all characters of
a cut; or the first fault of the cut, and the offset where that begins. -/
def Piece.charsOnto (done : List Char) (start : Nat) : List Piece → Except Error (List Char)
  | [] => .ok done.reverse
  | .char c :: rest => charsOnto (c :: done) (start + c.utf8Size) rest
  | .malformed width :: _ => .error (.malformed width start)
  | .cut _ :: _ => .error (.cut start)

/-- All characters of a cut, or its first fault. -/
def Piece.chars (start : Nat) (cut : List Piece) : Except Error (List Char) :=
  charsOnto [] start cut

theorem Piece.charsOnto_append (done earlier : List Char) (start : Nat) (cut : List Piece) :
    charsOnto (done ++ earlier) start cut =
      (charsOnto done start cut).map (earlier.reverse ++ ·) := by
  fun_induction charsOnto done start cut <;> simp_all [charsOnto, Except.map]

@[simp] theorem Piece.chars_nil (start : Nat) : chars start [] = .ok [] := rfl

theorem Piece.chars_char (start : Nat) (c : Char) (rest : List Piece) :
    chars start (.char c :: rest) = (chars (start + c.utf8Size) rest).map (c :: ·) :=
  charsOnto_append [] [c] _ rest

def decodeChars (bytes : Bytes) : Except Error (List Char) := Piece.chars 0 (pieces bytes)

def decode (bytes : Bytes) : Except Error String := (decodeChars bytes).map String.ofList

/-- The text of the bytes, if they are text. -/
def decode? (bytes : Bytes) : Option String := (decode bytes).toOption

def Piece.shown : Piece → Char
  | .char c => c
  | _ => '\uFFFD'

/-- The text with one replacement character for each stretch that is no character. -/
def lossy (bytes : Bytes) : String := String.ofList ((pieces bytes).map Piece.shown)

end Utf8
end RequestBridge
