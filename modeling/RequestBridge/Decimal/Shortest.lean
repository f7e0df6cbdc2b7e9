/-! The fewest decimal digits that read back as a given binary number.

A binary number `m * 2 ^ q` stands for all reals that round to it. A decimal stands
for the number when it lies among them. The search goes through the grids of one,
two, … seventeen digits and stops at the first with a point in that interval; such
a point is one of the two neighbours of the number itself on the grid. The nearer one
is taken. All of it is exact arithmetic on fractions. -/
namespace RequestBridge.Decimal

/-- The number `mantissa * 2 ^ exponent`. -/
structure Binary where
  mantissa : Nat
  exponent : Int
deriving DecidableEq, Repr

/-- The number `digits * 10 ^ exponent`. -/
structure Scientific where
  digits : Nat
  exponent : Int
deriving DecidableEq, Repr

/-- A fraction with a positive denominator. -/
structure Fraction where
  num : Nat
  den : Nat
deriving DecidableEq, Repr

def Fraction.scale (base : Nat) (r : Fraction) (k : Int) : Fraction :=
  match k with
  | .ofNat n => { r with num := r.num * Nat.pow base n }
  | .negSucc n => { r with den := r.den * Nat.pow base (n + 1) }

def Fraction.le (a b : Fraction) : Bool := a.num * b.den ≤ b.num * a.den

def Fraction.lt (a b : Fraction) : Bool := a.num * b.den < b.num * a.den

def Binary.toFraction (b : Binary) : Fraction := Fraction.scale 2 ⟨b.mantissa, 1⟩ b.exponent

/-- The mantissa of the numbers at the lower end of their binade. -/
def hidden : Nat := Nat.pow 2 52

/-- The least exponent. -/
def leastExponent : Int := -1074

/-- The lower end of the interval that rounds to the number. Below the lower end of a
binade the numbers lie twice as close. -/
def Binary.low (b : Binary) : Fraction :=
  if b.mantissa = hidden ∧ b.exponent ≠ leastExponent then
    Fraction.scale 2 ⟨4 * b.mantissa - 1, 1⟩ (b.exponent - 2)
  else Fraction.scale 2 ⟨2 * b.mantissa - 1, 1⟩ (b.exponent - 1)

/-- The upper end of the interval that rounds to the number. -/
def Binary.high (b : Binary) : Fraction :=
  Fraction.scale 2 ⟨2 * b.mantissa + 1, 1⟩ (b.exponent - 1)

/-- Whether the fraction rounds to the number: a tie goes to the even mantissa. -/
def Binary.covers (b : Binary) (r : Fraction) : Bool :=
  if b.mantissa % 2 = 0 then b.low.le r && r.le b.high else b.low.lt r && r.lt b.high

/-- The exponent of the first digit of a positive fraction. -/
def Fraction.magnitude (r : Fraction) : Int :=
  if r.den ≤ r.num then ((Nat.toDigits 10 (r.num / r.den)).length : Int) - 1
  else match (List.range 400).find? fun j => r.den ≤ r.num * Nat.pow 10 j with
    | some j => -(j : Int)
    | none => 0

def Scientific.toFraction (s : Scientific) : Fraction := Fraction.scale 10 ⟨s.digits, 1⟩ s.exponent

/-- Which neighbour stands for a number that lies in the middle between two. -/
inductive Tie where
  /-- The one with an even last digit. -/
  | even
  /-- The greater one. -/
  | up
deriving DecidableEq, Repr

/-- Whether the lower neighbour is taken, given that neighbour's digits as a number. -/
def Tie.isDown (t : Tie) (below : Nat) : Bool :=
  match t with
  | .even => below % 2 = 0
  | .up => false

/-- The neighbours of a fraction on the grid of multiples of `10 ^ k`, the nearer one first. -/
def neighbours (tie : Tie) (r : Fraction) (k : Int) : List Scientific :=
  let scaled := Fraction.scale 10 r (-k)
  let below := scaled.num / scaled.den
  let rest := scaled.num % scaled.den
  let up : Scientific := ⟨below + 1, k⟩
  let down : Scientific := ⟨below, k⟩
  if rest = 0 then [down]
  else if 2 * rest < scaled.den || (2 * rest = scaled.den && tie.isDown below) then [down, up]
  else [up, down]

/-- The shortest decimal that stands for a positive number. -/
def Binary.shortest (tie : Tie) (b : Binary) : Scientific :=
  let r := b.toFraction
  let top := r.magnitude
  let grids := (List.range 17).map fun (n : Nat) => top - Int.ofNat n
  match grids.findSome? fun k => (neighbours tie r k).find? fun s => b.covers s.toFraction with
  | some s => s
  | none => ⟨0, 0⟩

/-- A double-precision number taken apart. -/
inductive Parts where
  | nan
  | infinite (negative : Bool)
  | finite (negative : Bool) (magnitude : Binary)
deriving DecidableEq, Repr

/-- The parts of the number with these bits: a sign, eleven bits of exponent, and
fifty-two of mantissa. -/
def Parts.ofBits (bits : UInt64) : Parts :=
  let n := bits.toNat
  let negative := n / Nat.pow 2 63 = 1
  let exponent : Nat := n / Nat.pow 2 52 % Nat.pow 2 11
  let mantissa := n % Nat.pow 2 52
  if exponent = 2047 then if mantissa = 0 then .infinite negative else .nan
  else if exponent = 0 then .finite negative ⟨mantissa, leastExponent⟩
  else .finite negative ⟨mantissa + hidden, leastExponent + Int.ofNat exponent - 1⟩

end RequestBridge.Decimal
