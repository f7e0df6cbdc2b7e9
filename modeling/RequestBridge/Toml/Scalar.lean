import RequestBridge.Document
import RequestBridge.Toml.Text

/-! Numbers, dates and times in TOML. -/
namespace RequestBridge.Toml

/-- A scalar that was read, and what follows it. -/
abbrev Scalar := Option (Document × List Char)

def isDecimal (c : Char) : Bool := '0' ≤ c && c ≤ '9'

/-- The longest run of digits at the front, between which single underscores may stand,
and what follows it. -/
def digitRun (isDigit : Char → Bool) : List Char → List Char × List Char
  | '_' :: c :: rest =>
    if isDigit c then
      let (digits, rest) := digitRun isDigit rest
      (c :: digits, rest)
    else ([], '_' :: c :: rest)
  | c :: rest =>
    if isDigit c then
      let (digits, rest) := digitRun isDigit rest
      (c :: digits, rest)
    else ([], c :: rest)
  | [] => ([], [])

/-- A run of digits that begins with a digit. -/
def digits? (isDigit : Char → Bool) (cs : List Char) : Option (List Char × List Char) :=
  match cs with
  | c :: _ => if isDigit c then some (digitRun isDigit cs) else none
  | [] => none

/-- The value of digits in a base. -/
def valueOf (base : Nat) (digits : List Char) : Nat :=
  digits.foldl (fun n c => base * n + (hexDigit? c).getD 0) 0

/-- Integers have 64 bits, one of them for the sign. -/
def integer? (n : Int) : Option Document :=
  if -(Nat.pow 2 63 : Int) ≤ n ∧ n < Nat.pow 2 63 then some (.integer n) else none

/-- An integer in a base other than ten, from behind its mark on. -/
def based (base : Nat) (isDigit : Char → Bool) (cs : List Char) : Scalar := do
  let (digits, rest) ← digits? isDigit cs
  let document ← integer? (valueOf base digits)
  return (document, rest)

/-- Decimal exponents beyond this one make any number zero or infinite that has no more
digits than this. -/
def exponentSpan : Nat := 400

/-- The number `significand * 10 ^ exponent`, rounded. -/
def scaled (significand : Nat) (exponent : Int) : Float :=
  let size : Int := exponent + (Nat.toDigits 10 significand).length
  if significand = 0 then 0
  else if (exponentSpan : Int) < size then 1 / 0
  else if size < -(exponentSpan : Int) then 0
  else Float.ofScientific significand (exponent < 0) exponent.natAbs

/-- A float of its parts. Only one below the least finite number may be infinite. -/
def float? (negative : Bool) (whole fraction : List Char) (exponent : Int) : Option Document :=
  let x := scaled (valueOf 10 (whole ++ fraction)) (exponent - fraction.length)
  if negative then some (.float (-x))
  else if x.isInf then none
  else some (.float x)

/-- The sign at the front, if there is one, and what follows it. -/
def sign : List Char → Option Bool × List Char
  | '+' :: rest => (some false, rest)
  | '-' :: rest => (some true, rest)
  | cs => (none, cs)

/-- An exponent from behind its letter on. -/
def exponent? (cs : List Char) : Option (Int × List Char) := do
  let (negative, cs) := sign cs
  let (digits, rest) ← digits? isDecimal cs
  let e : Int := valueOf 10 digits
  return (if negative == some true then -e else e, rest)

/-- The whole part of a decimal number: a zero, or digits that begin with no zero. -/
def wholePart? : List Char → Option (List Char × List Char)
  | '0' :: rest => some (['0'], rest)
  | cs => digits? isDecimal cs

def isExponentMark (c : Char) : Bool := c == 'e' || c == 'E'

/-- A decimal number, from behind the sign on. -/
def decimal (negative : Bool) (cs : List Char) : Scalar := do
  let (whole, rest) ← wholePart? cs
  match rest with
  | '.' :: rest =>
    let (fraction, rest) ← digits? isDecimal rest
    match rest with
    | c :: tail =>
      if isExponentMark c then
        let (e, rest) ← exponent? tail
        return (← float? negative whole fraction e, rest)
      else return (← float? negative whole fraction 0, rest)
    | [] => return (← float? negative whole fraction 0, rest)
  | c :: tail =>
    if isExponentMark c then
      let (e, rest) ← exponent? tail
      return (← float? negative whole [] e, rest)
    else
      let n : Int := valueOf 10 whole
      return (← integer? (if negative then -n else n), rest)
  | [] =>
    let n : Int := valueOf 10 whole
    return (← integer? (if negative then -n else n), rest)

/-- Infinity or the number that is none, from behind the sign on. -/
def special? (negative : Bool) : List Char → Scalar
  | 'i' :: 'n' :: 'f' :: rest => some (.float (if negative then -(1 / 0) else 1 / 0), rest)
  | 'n' :: 'a' :: 'n' :: rest => some (.float (0 / 0), rest)
  | _ => none

/-- A number that begins with a sign, a digit, or the letter of a special one. -/
def number (cs : List Char) : Scalar :=
  match cs with
  | '0' :: 'x' :: rest => based 16 (fun c => (hexDigit? c).isSome) rest
  | '0' :: 'o' :: rest => based 8 (fun c => '0' ≤ c && c ≤ '7') rest
  | '0' :: 'b' :: rest => based 2 (fun c => c == '0' || c == '1') rest
  | _ =>
    let (signed, rest) := sign cs
    let negative := signed == some true
    match special? negative rest with
    | some result => some result
    | none => decimal negative rest

/-- A number of `width` digits between two bounds. -/
def fixed? (width low high : Nat) (cs : List Char) : Option (Nat × List Char) :=
  let digits := cs.take width
  let n := valueOf 10 digits
  if digits.length = width && digits.all isDecimal && low ≤ n && n ≤ high then
    some (n, cs.drop width)
  else none

/-- What follows a character that must be there. -/
def after? (c : Char) : List Char → Option (List Char)
  | d :: rest => if c == d then some rest else none
  | [] => none

def daysIn (year month : Nat) : Nat :=
  if month = 2 then
    if year % 4 = 0 && (year % 100 ≠ 0 || year % 400 = 0) then 29 else 28
  else if [4, 6, 9, 11].contains month then 30
  else 31

/-- What follows a date. -/
def date? (cs : List Char) : Option (List Char) := do
  let (year, rest) ← fixed? 4 0 9999 cs
  let (month, rest) ← fixed? 2 1 12 (← after? '-' rest)
  let (_, rest) ← fixed? 2 1 (daysIn year month) (← after? '-' rest)
  return rest

/-- What follows a time of day. Its seconds may be those of a leap second. -/
def time? (cs : List Char) : Option (List Char) := do
  let (_, rest) ← fixed? 2 0 23 cs
  let (_, rest) ← fixed? 2 0 59 (← after? ':' rest)
  let (_, rest) ← fixed? 2 0 60 (← after? ':' rest)
  match rest with
  | '.' :: c :: more => return if isDecimal c then more.dropWhile isDecimal else rest
  | _ => return rest

/-- What follows the offset of a time zone. -/
def offset? : List Char → Option (List Char)
  | 'Z' :: rest => some rest
  | 'z' :: rest => some rest
  | c :: rest => do
    if c ≠ '+' ∧ c ≠ '-' then none
    let (_, rest) ← fixed? 2 0 23 rest
    let (_, rest) ← fixed? 2 0 59 (← after? ':' rest)
    return rest
  | [] => none

/-- What follows a time behind a date, with its offset if it has one. -/
def timeAfterDate? : List Char → Option (List Char)
  | c :: rest => do
    if c ≠ 'T' ∧ c ≠ 't' ∧ c ≠ ' ' then none
    let rest ← time? rest
    return (offset? rest).getD rest
  | [] => none

/-- What follows a date, a time, or both. -/
def moment? (cs : List Char) : Option (List Char) :=
  match date? cs with
  | some rest => some ((timeAfterDate? rest).getD rest)
  | none => time? cs

/-- A value that begins with a sign or a digit. -/
def scalar (cs : List Char) : Scalar :=
  match moment? cs with
  | some rest => some (.moment, rest)
  | none => number cs

end RequestBridge.Toml
