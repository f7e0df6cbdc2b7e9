import RequestBridge.Decimal.Shortest

/-! Floating point numbers in messages.

The shortest digits are written out, with at least one digit after the point. The plain
text of a number always is of this form; the short text is while the exponent of the first
digit is from -5 to 15, and otherwise has a signed exponent. Between two equally near
choices of digits the plain text takes the greater, and the short text the even one. -/
namespace RequestBridge.Decimal

/-- The digits of a decimal and the exponent of the first, without zeros at the end. -/
def Scientific.normal (s : Scientific) : List Char × Int :=
  let digits := Nat.toDigits 10 s.digits
  let kept := (digits.reverse.dropWhile (· == '0')).reverse
  (kept, s.exponent + digits.length - 1)

/-- Digits with a point behind the first. -/
def pointed : List Char → List Char
  | [] => ['0']
  | [d] => [d]
  | d :: rest => d :: '.' :: rest

def exponential (digits : List Char) (exponent : Int) : List Char :=
  pointed digits ++ 'e' :: (if exponent < 0 then '-' else '+') :: Nat.toDigits 10 exponent.natAbs

def positional (digits : List Char) (exponent : Int) : List Char :=
  if exponent < 0 then
    ['0', '.'] ++ List.replicate (exponent.natAbs - 1) '0' ++ digits
  else
    let whole := exponent.toNat + 1
    let front := digits.take whole ++ List.replicate (whole - digits.length) '0'
    let back := digits.drop whole
    front ++ '.' :: (if back.isEmpty then ['0'] else back)

/-- Which numbers are written with an exponent. -/
inductive Style where
  /-- Those with many places before or behind the point. -/
  | short
  /-- None. -/
  | plain
deriving DecidableEq, Repr

def Style.tie : Style → Tie
  | .short => .even
  | .plain => .up

/-- Whether digits are written out, by the exponent of the first. -/
def Style.isPositional (s : Style) (exponent : Int) : Bool :=
  match s with
  | .short => -5 ≤ exponent && exponent < 16
  | .plain => true

def magnitude (s : Style) (b : Binary) : List Char :=
  if b.mantissa = 0 then ['0', '.', '0']
  else
    let (digits, exponent) := (b.shortest s.tie).normal
    if s.isPositional exponent then positional digits exponent
    else exponential digits exponent

def Parts.text (s : Style) : Parts → String
  | .nan => "NaN"
  | .infinite negative => if negative then "-inf" else "inf"
  | .finite negative b => String.ofList ((if negative then ['-'] else []) ++ magnitude s b)

/-- The text of a number. -/
def text (s : Style) (x : Float) : String := (Parts.ofBits x.toBits).text s

end RequestBridge.Decimal
