import RamlDocs.Number.Binary64

/-!
# Arithmetic on floating point numbers

Sums and products, computed exactly and rounded once. A sum of two opposite numbers is the positive
zero.
-/

namespace RamlDocs.Binary64

/-- The number nearest to `n * 2 ^ exponent`; `negativeZero` is the sign of a zero. -/
def ofScaled (n exponent : Int) (negativeZero : Bool) : Binary64 :=
  let size :=
    if 0 ≤ exponent then ofRatio (n.natAbs * Nat.pow 2 exponent.toNat) 1
    else ofRatio n.natAbs (Nat.pow 2 (-exponent).toNat)
  if n < 0 || (n == 0 && negativeZero) then size.negate else size

/-- Infinity with a sign. -/
def signedInfinity (minus : Bool) : Binary64 :=
  if minus then positiveInfinity.negate else positiveInfinity

/-- A mantissa with the sign of the number. -/
def signed (x : Binary64) (mantissa : Nat) : Int := if x.negative then -mantissa else mantissa

/-- The sum of two numbers. -/
def add (x y : Binary64) : Binary64 :=
  match x.magnitude, y.magnitude with
  | .nan, _ => nan
  | _, .nan => nan
  | .infinite, .infinite => if x.negative == y.negative then x else nan
  | .infinite, _ => x
  | _, .infinite => y
  | .finite m e, .finite n f =>
    let low := min e f
    let left := x.signed m * Nat.pow 2 (e - low).toNat
    let right := y.signed n * Nat.pow 2 (f - low).toNat
    ofScaled (left + right) low (x.negative && y.negative)

/-- The product of two numbers. -/
def mul (x y : Binary64) : Binary64 :=
  let minus := x.negative != y.negative
  match x.magnitude, y.magnitude with
  | .nan, _ => nan
  | _, .nan => nan
  | .infinite, _ => if y.isZero then nan else signedInfinity minus
  | _, .infinite => if x.isZero then nan else signedInfinity minus
  | .finite m e, .finite n f => ofScaled (x.signed m * y.signed n) (e + f) minus

/-- The number nearest to a natural number, if there is one. -/
def ofNat? (n : Nat) : Option Binary64 :=
  let x := ofRatio n 1
  if x = positiveInfinity then none else some x

end RamlDocs.Binary64
