import RamlDocs.Number.Binary64

/-!
# The shortest decimal that reads back

Every finite number has decimals nearer to it than to any other number. `shortest` finds those
with the fewest digits, and of these the nearest. For each count of digits only the two
neighbours of the number on that decimal grid matter; seventeen digits always suffice.
-/

namespace RamlDocs.Binary64

/-- A positive decimal, `digits * 10 ^ exponent`. -/
structure Decimal where
  digits : Nat
  exponent : Int
  deriving DecidableEq, Repr

/-- The number of decimal digits of `n`, at least one. -/
def digitCount (n : Nat) : Nat := (Nat.toDigits 10 n).length

/-- The exponent of the leading decimal digit of the positive quotient `num / den`. -/
def leadingExponent (num den : Nat) : Int :=
  if den ≤ num then (digitCount (num / den) : Int) - 1
  else -(digitCount ((den + num - 1) / num - 1) : Int)

/-- `Decimal` without the zeros at its end. -/
def Decimal.stripZeros : Nat → Decimal → Decimal
  | 0, d => d
  | fuel + 1, d =>
    if d.digits ≠ 0 ∧ d.digits % 10 = 0 then stripZeros fuel ⟨d.digits / 10, d.exponent + 1⟩ else d

/-- The numbers that round to `m * 2 ^ q`, in quarters of `2 ^ q`: the lower end, the number
itself and the upper end. Below a power of two the neighbours are closer together. -/
def interval (m : Nat) (q : Int) : Nat × Nat × Nat :=
  (if m = Nat.pow 2 52 && q != -1074 then 4 * m - 1 else 4 * m - 2, 4 * m, 4 * m + 2)

/-- The decimal on the grid `10 ^ grid` that is nearest to the number among those which round to
it. Ends of the interval belong to it when the mantissa is even. -/
def onGrid? (m : Nat) (q grid : Int) : Option Decimal :=
  let (low, value, high) := interval m q
  let up : Nat := Nat.pow 2 (q - 2).toNat * Nat.pow 10 (-grid).toNat
  let down : Nat := Nat.pow 2 (2 - q).toNat * Nat.pow 10 grid.toNat
  let inside (c : Nat) : Bool :=
    if m % 2 = 0 then low * up ≤ c * down && c * down ≤ high * up
    else low * up < c * down && c * down < high * up
  let floor := value * up / down
  let below := value * up - floor * down
  let above := (floor + 1) * down - value * up
  match inside floor, inside (floor + 1) with
  | true, true =>
    let nearest := if below < above then floor else if above < below then floor + 1
      else floor + floor % 2
    some ⟨nearest, grid⟩
  | true, false => some ⟨floor, grid⟩
  | false, true => some ⟨floor + 1, grid⟩
  | false, false => none

/-- The first grid with a hit, for digit counts from `count` upwards. -/
def firstHit (m : Nat) (q lead : Int) : Nat → Nat → Decimal
  | 0, _ => ⟨0, 0⟩
  | more + 1, count =>
    match onGrid? m q (lead - count + 1) with
    | some d => d
    | none => firstHit m q lead more (count + 1)

/-- The shortest decimal that reads back as `m * 2 ^ q`, for a positive `m`. -/
def shortest (m : Nat) (q : Int) : Decimal :=
  let lead := leadingExponent (m * Nat.pow 2 q.toNat) (Nat.pow 2 (-q).toNat)
  (firstHit m q lead 17 1).stripZeros 20

end RamlDocs.Binary64
