import RequestBridge.Json.Number

/-! JSON texts as documents.

The reader takes a text from front to back and keeps all it has read when the text
breaks off, so that what stands before a fault can be judged before the fault. -/
namespace RequestBridge.Json

def isBlank (b : UInt8) : Bool := b == 0x20 || b == 0x0A || b == 0x0D || b == 0x09

def skipBlanks (bs : Bytes) : Bytes := bs.dropWhile isBlank

def hexValue? (b : UInt8) : Option Nat :=
  if isDigit b then some (digitValue b)
  else if 0x61 ≤ b && b ≤ 0x66 then some (b.toNat - 0x57)
  else if 0x41 ≤ b && b ≤ 0x46 then some (b.toNat - 0x37)
  else none

/-- The four hexadecimal digits of an escape. -/
def hex4 : Bytes → Except Fault (Nat × Bytes)
  | a :: b :: c :: d :: rest =>
    match hexValue? a, hexValue? b, hexValue? c, hexValue? d with
    | some a, some b, some c, some d => .ok (((a * 16 + b) * 16 + c) * 16 + d, rest)
    | _, _, _, _ => .error .syntaxError
  | _ => .error .ended

/-- The character behind the letter `u` of an escape. Characters beyond sixteen bits are
written as two escapes, and neither half may stand alone. -/
def unicodeEscape (bs : Bytes) : Except Fault (Char × Bytes) := do
  let (n, rest) ← hex4 bs
  if 0xDC00 ≤ n && n ≤ 0xDFFF then throw .syntaxError
  if n < 0xD800 || 0xDBFF < n then return (Char.ofNat n, rest)
  match rest with
  | 0x5C :: 0x75 :: rest =>
    let (low, rest) ← hex4 rest
    if low < 0xDC00 || 0xDFFF < low then throw .syntaxError
    return (Char.ofNat (0x10000 + (n - 0xD800) * 0x400 + (low - 0xDC00)), rest)
  | [] => throw .ended
  | [0x5C] => throw .ended
  | _ => throw .syntaxError

/-- The character behind a backslash. -/
def escape (bs : Bytes) : Except Fault (Char × Bytes) :=
  match bs with
  | [] => .error .ended
  | 0x22 :: rest => .ok ('"', rest)
  | 0x5C :: rest => .ok ('\\', rest)
  | 0x2F :: rest => .ok ('/', rest)
  | 0x62 :: rest => .ok ('\x08', rest)
  | 0x66 :: rest => .ok ('\x0C', rest)
  | 0x6E :: rest => .ok ('\n', rest)
  | 0x72 :: rest => .ok ('\r', rest)
  | 0x74 :: rest => .ok ('\t', rest)
  | 0x75 :: rest => unicodeEscape rest
  | _ => .error .syntaxError

/-- The bytes of a text up to the closing quote, the last first. Every step takes a
byte, so as many steps as bytes are enough. -/
def stringBytes : Nat → Bytes → Bytes → Except Fault (Bytes × Bytes)
  | 0, _, _ => .error .ended
  | steps + 1, done, bs =>
    match bs with
    | [] => .error .ended
    | 0x22 :: rest => .ok (done, rest)
    | 0x5C :: rest =>
      match escape rest with
      | .error f => .error f
      | .ok (c, rest) => stringBytes steps ((String.utf8EncodeChar c).reverse ++ done) rest
    | b :: rest => if b < 0x20 then .error .syntaxError else stringBytes steps (b :: done) rest

/-- The text behind an opening quote. -/
def string (steps : Nat) (bs : Bytes) : Except Fault (String × Bytes) := do
  let (reversed, rest) ← stringBytes steps [] bs
  match Utf8.decode? reversed.reverse with
  | some text => return (text, rest)
  | none => throw .syntaxError

/-- The rest of a word, of which the first letter has been seen. -/
def word (document : Document) : Bytes → Bytes → Except Fault (Document × Bytes)
  | [], bs => .ok (document, bs)
  | _ :: _, [] => .error .ended
  | w :: ws, b :: bs => if w == b then word document ws bs else .error .syntaxError

/-- What was read, and where the reading goes on if the text has not broken off. -/
abbrev Reading := Document × Except Fault Bytes

/-- The reading of a value that has no parts. -/
def Reading.ofScalar : Except Fault (Document × Bytes) → Reading
  | .ok (document, rest) => (document, .ok rest)
  | .error f => (.fragment f, .error f)

/-- The reading of a text. -/
def Reading.ofText : Except Fault (String × Bytes) → Reading
  | .ok (text, rest) => (.text text, .ok rest)
  | .error f => (.fault f, .error f)

/-- The key of an entry and the colon behind it, from the opening quote on. The key may
be known though the colon is not there. -/
def key (steps : Nat) (bs : Bytes) : Except Fault (String × Except Fault Bytes) :=
  match bs with
  | 0x22 :: rest =>
    match string steps rest with
    | .error f => .error f
    | .ok (name, rest) =>
      match skipBlanks rest with
      | 0x3A :: rest => .ok (name, .ok rest)
      | [] => .ok (name, .error .ended)
      | _ => .ok (name, .error .syntaxError)
  | [] => .error .ended
  | _ => .error .syntaxError

/-- How deep lists and tables may nest, the outermost level included. -/
def maxDepth : Nat := 127

mutual

/-- The value at the front of a text, with the number of levels that may open in it. -/
def value (steps depth : Nat) (bs : Bytes) : Reading :=
  match steps with
  | 0 => (.fault .ended, .error .ended)
  | steps + 1 =>
    match skipBlanks bs with
    | [] => (.fault .ended, .error .ended)
    | 0x6E :: rest => .ofScalar (word .null [0x75, 0x6C, 0x6C] rest)
    | 0x74 :: rest => .ofScalar (word (.boolean true) [0x72, 0x75, 0x65] rest)
    | 0x66 :: rest => .ofScalar (word (.boolean false) [0x61, 0x6C, 0x73, 0x65] rest)
    | 0x22 :: rest => .ofText (string steps rest)
    | 0x5B :: rest =>
      match depth with
      | 0 => (.list [] (.broken .syntaxError), .error .syntaxError)
      | depth + 1 =>
        match skipBlanks rest with
        | 0x5D :: rest => (.list [] .closed, .ok rest)
        | [] => (.list [] (.broken .ended), .error .ended)
        | rest =>
          let (elements, tail, next) := items steps depth rest
          (.list elements tail, next)
    | 0x7B :: rest =>
      match depth with
      | 0 => (.table [] (.broken .syntaxError), .error .syntaxError)
      | depth + 1 =>
        match skipBlanks rest with
        | 0x7D :: rest => (.table [] .closed, .ok rest)
        | [] => (.table [] (.broken .ended), .error .ended)
        | rest =>
          let (members, tail, next) := entries steps depth rest
          (.table members tail, next)
    | b :: rest =>
      if b == 0x2D || isDigit b then .ofScalar (numeral (b :: rest))
      else (.fault .syntaxError, .error .syntaxError)

/-- The items of a list, from the first or from behind a comma on. -/
def items (steps depth : Nat) (bs : Bytes) : List Document × Tail × Except Fault Bytes :=
  match steps with
  | 0 => ([], .broken .ended, .error .ended)
  | steps + 1 =>
    match value steps depth bs with
    | (item, .error f) => ([item], .broken f, .error f)
    | (item, .ok rest) =>
      match skipBlanks rest with
      | 0x5D :: rest => ([item], .closed, .ok rest)
      | 0x2C :: rest =>
        match skipBlanks rest with
        | [] => ([item], .brokenAfterComma .ended, .error .ended)
        | 0x5D :: _ => ([item], .brokenAfterComma .syntaxError, .error .syntaxError)
        | rest =>
          let (more, tail, next) := items steps depth rest
          (item :: more, tail, next)
      | [] => ([item], .broken .ended, .error .ended)
      | _ => ([item], .broken .syntaxError, .error .syntaxError)

/-- The entries of a table, from the first key or from behind a comma on. -/
def entries (steps depth : Nat) (bs : Bytes) :
    List (String × Document) × Tail × Except Fault Bytes :=
  match steps with
  | 0 => ([], .broken .ended, .error .ended)
  | steps + 1 =>
    match key steps bs with
    | .error f => ([], .broken f, .error f)
    | .ok (name, .error f) => ([(name, .fault f)], .broken f, .error f)
    | .ok (name, .ok rest) =>
      match value steps depth rest with
      | (member, .error f) => ([(name, member)], .broken f, .error f)
      | (member, .ok rest) =>
        match skipBlanks rest with
        | 0x7D :: rest => ([(name, member)], .closed, .ok rest)
        | 0x2C :: rest =>
          match entries steps depth (skipBlanks rest) with
          | ([], .broken f, next) => ([(name, member)], .brokenAfterComma f, next)
          | (more, tail, next) => ((name, member) :: more, tail, next)
        | [] => ([(name, member)], .broken .ended, .error .ended)
        | _ => ([(name, member)], .broken .syntaxError, .error .syntaxError)

end

/-- The document of a text, as far as it goes, and the fault at which it breaks off. Behind
the value only blanks may stand. -/
def read (bs : Bytes) : Document × Except Fault Unit :=
  let (document, next) := value (2 * bs.length + 2) maxDepth bs
  (document, next.bind fun rest =>
    if (skipBlanks rest).isEmpty then .ok () else .error .syntaxError)

/-- The document of a whole text. -/
def parse (bs : Bytes) : Except Fault Document :=
  let (document, finish) := read bs
  finish.map fun _ => document

end RequestBridge.Json
