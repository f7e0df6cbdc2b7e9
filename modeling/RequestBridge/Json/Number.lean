import RequestBridge.Document
import RequestBridge.Text.Utf8

/-! Numerals of JSON.

Digits are gathered into a whole number as long as it stays below `2 ^ 64`; digits
beyond that only count as places. A numeral without point and exponent is an integer
if it fits 64 bits. Any other is the gathered number, rounded, times or divided by a
power of ten. -/
namespace RequestBridge.Json

def isDigit (b : UInt8) : Bool := 0x30 ≤ b && b ≤ 0x39

def digitValue (b : UInt8) : Nat := b.toNat - 0x30

/-- The longest digits at the front, and the rest. -/
def splitDigits (bs : Bytes) : Bytes × Bytes := (bs.takeWhile isDigit, bs.dropWhile isDigit)

/-- A significand with further digits as long as it stays below `2 ^ 64`, and the number
of digits left over. -/
def gather (significand : Nat) : Bytes → Nat × Nat
  | [] => (significand, 0)
  | d :: rest =>
    let next := significand * 10 + digitValue d
    if next < Nat.pow 2 64 then gather next rest else (significand, rest.length + 1)

def powerOfTen (k : Nat) : Float := Float.ofScientific 1 false k

/-- The greatest power of ten that is divided by at once. -/
def maxPower : Nat := 308

def divide : Nat → Float → Nat → Float
  | 0, x, _ => x
  | steps + 1, x, k =>
    if k ≤ maxPower then x / powerOfTen k
    else if x == 0 then x
    else divide steps (x / powerOfTen maxPower) (k - maxPower)

/-- The significand scaled by a power of ten, unless the result is infinite. Four
divisions take any significand to zero. -/
def scale (negative : Bool) (significand : Nat) (exponent : Int) : Except Fault Float :=
  let x := Float.ofNat significand
  let signed (x : Float) := if negative then -x else x
  if exponent < 0 then .ok (signed (divide 4 x exponent.natAbs))
  else if exponent ≤ maxPower then
    let y := x * powerOfTen exponent.toNat
    if y.isInf then .error .syntaxError else .ok (signed y)
  else if x == 0 then .ok (signed x)
  else .error .syntaxError

/-- A numeral that was read, and what follows it. -/
abbrev Numeral := Except Fault (Document × Bytes)

def float (negative : Bool) (significand : Nat) (exponent : Int) (rest : Bytes) : Numeral :=
  (scale negative significand exponent).map fun x => (.float x, rest)

/-- The exponents that a reader keeps apart; greater ones are all alike. -/
def maxExponent : Nat := 2147483647

/-- The reading goes on behind the letter of an exponent. -/
def exponentPart (negative : Bool) (significand : Nat) (places : Int) (bs : Bytes) : Numeral :=
  let (down, bs) := match bs with
    | 0x2B :: rest => (false, rest)
    | 0x2D :: rest => (true, rest)
    | _ => (false, bs)
  let (digits, rest) := splitDigits bs
  if digits.isEmpty then .error (if rest.isEmpty then .ended else .syntaxError)
  else
    let e := digits.foldl (fun n d => 10 * n + digitValue d) 0
    if maxExponent < e then
      if significand ≠ 0 && !down then .error .syntaxError
      else .ok (.float (if negative then -0.0 else 0.0), rest)
    else float negative significand (if down then places - e else places + e) rest

/-- The reading goes on where an exponent may begin. -/
def exponentOrEnd (negative : Bool) (significand : Nat) (places : Int) (bs : Bytes) : Numeral :=
  match bs with
  | 0x65 :: rest => exponentPart negative significand places rest
  | 0x45 :: rest => exponentPart negative significand places rest
  | _ => float negative significand places bs

/-- The reading goes on behind the point. -/
def fractionPart (negative : Bool) (significand places : Nat) (bs : Bytes) : Numeral :=
  let (digits, rest) := splitDigits bs
  if digits.isEmpty then .error (if rest.isEmpty then .ended else .syntaxError)
  else
    let (significand, left) := gather significand digits
    exponentOrEnd negative significand ((places : Int) - (digits.length - left : Nat)) rest

def integer (negative : Bool) (n : Nat) (rest : Bytes) : Document × Bytes :=
  if !negative then (.integer n, rest)
  else if n = 0 then (.float (-0.0), rest)
  else if n ≤ Nat.pow 2 63 then (.integer (-(n : Int)), rest)
  else (.float (-(Float.ofNat n)), rest)

/-- The reading goes on behind the sign. -/
def unsigned (negative : Bool) (bs : Bytes) : Numeral :=
  let (digits, rest) := splitDigits bs
  match digits with
  | [] => .error (if rest.isEmpty then .ended else .syntaxError)
  | 0x30 :: _ :: _ => .error .syntaxError
  | _ =>
    let (significand, left) := gather 0 digits
    match rest with
    | 0x2E :: rest => fractionPart negative significand left rest
    | 0x65 :: _ => exponentOrEnd negative significand left rest
    | 0x45 :: _ => exponentOrEnd negative significand left rest
    | _ =>
      if left = 0 then .ok (integer negative significand rest)
      else float negative significand left rest

/-- The numeral at the front of the text. -/
def numeral (bs : Bytes) : Numeral :=
  match bs with
  | 0x2D :: rest => unsigned true rest
  | _ => unsigned false bs

end RequestBridge.Json
