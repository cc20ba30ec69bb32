/-!
# Binary floating point numbers of 64 bits

A number is kept as its bits, so that equality is decidable and every reading of the bits is a
plain definition. `Binary64.ofRatio` rounds an exact quotient to the nearest number, a half to
the even neighbour; decimal texts are read through it.
-/

namespace RamlDocs

/-- A floating point number, given by sign, exponent and fraction in one word. -/
structure Binary64 where
  bits : UInt64
  deriving DecidableEq, Repr, Inhabited

/-- What the bits say apart from the sign: `mantissa * 2 ^ exponent`, or none of the numbers. -/
inductive Binary64.Magnitude where
  | finite (mantissa : Nat) (exponent : Int)
  | infinite
  | nan
  deriving DecidableEq, Repr

namespace Binary64

/-- Whether the sign bit is set. -/
def negative (x : Binary64) : Bool := 0x8000000000000000 ≤ x.bits

/-- The magnitude, read from exponent and fraction field. -/
def magnitude (x : Binary64) : Magnitude :=
  let word : Nat := x.bits.toNat % Nat.pow 2 63
  let exponent : Nat := word / Nat.pow 2 52
  let fraction : Nat := word % Nat.pow 2 52
  if exponent = 2047 then (if fraction = 0 then .infinite else .nan)
  else if exponent = 0 then .finite fraction (-1074)
  else .finite (fraction + Nat.pow 2 52) ((exponent : Int) - 1075)

def positiveInfinity : Binary64 := ⟨0x7ff0000000000000⟩

def nan : Binary64 := ⟨0x7ff8000000000000⟩

/-- The number with the other sign. -/
def negate (x : Binary64) : Binary64 := ⟨x.bits ^^^ 0x8000000000000000⟩

/-- `num / den` to the nearest integer, a half to the even neighbour. -/
def roundHalfEven (num den : Nat) : Nat :=
  let floor := num / den
  let twice := 2 * (num % den)
  if twice < den then floor
  else if den < twice then floor + 1
  else floor + floor % 2

/-- `num / den * 2 ^ (-exponent)` as a quotient of natural numbers. -/
def scaled (num den : Nat) (exponent : Int) : Nat × Nat :=
  if 0 ≤ exponent then (num, den * Nat.pow 2 exponent.toNat)
  else (num * Nat.pow 2 (-exponent).toNat, den)

/-- The number nearest to `num / den`. Subnormal numbers share the least exponent, and a
mantissa that is rounded up to the next power of two carries into the exponent field. -/
def ofRatio (num den : Nat) : Binary64 :=
  if num = 0 then ⟨0⟩
  else
    let guess : Int := (num.log2 : Int) - den.log2 - 52
    let (n, d) := scaled num den guess
    let exponent := max (-1074) (if n / d < Nat.pow 2 52 then guess - 1 else guess)
    let (n, d) := scaled num den exponent
    let word := (exponent + 1074).toNat * Nat.pow 2 52 + roundHalfEven n d
    if 2047 * Nat.pow 2 52 ≤ word then positiveInfinity else ⟨UInt64.ofNat word⟩

/-- The number nearest to `digits * 10 ^ exponent`. Exponents far outside the range of the
numbers are settled without computing the power. -/
def ofDecimal (digits : Nat) (exponent : Int) : Binary64 :=
  let size : Int := (Nat.toDigits 10 digits).length + exponent
  if digits = 0 then ⟨0⟩
  else if 400 < size then positiveInfinity
  else if size < -400 then ⟨0⟩
  else if 0 ≤ exponent then ofRatio (digits * Nat.pow 10 exponent.toNat) 1
  else ofRatio digits (Nat.pow 10 (-exponent).toNat)

/-- The integer between zero and the number that is nearest to it; none for infinities and for
what is not a number. -/
def truncate? (x : Binary64) : Option Int :=
  match x.magnitude with
  | .finite m e =>
    let n : Nat := if 0 ≤ e then m * Nat.pow 2 e.toNat else m / Nat.pow 2 (-e).toNat
    some (if x.negative then -(n : Int) else n)
  | _ => none

/-- The integer that the number is equal to, if there is one. -/
def integer? (x : Binary64) : Option Int :=
  match x.magnitude with
  | .finite m e =>
    if 0 ≤ e || m % Nat.pow 2 (-e).toNat == 0 then x.truncate? else none
  | _ => none

/-- Whether the number is zero, of either sign. -/
def isZero (x : Binary64) : Bool := x.magnitude == .finite 0 (-1074)

end Binary64

end RamlDocs
