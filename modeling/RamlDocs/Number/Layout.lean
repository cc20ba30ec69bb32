import RamlDocs.Number.Shortest

/-!
# How a floating point number is written

The digits are the shortest that read back. A layout says for which exponents of the leading
digit they are written positionally; all others get an exponent with a sign and a least number of
digits. A positional number always shows a point.
-/

namespace RamlDocs.Binary64

/-- Which exponents are written positionally, `least ≤ e < bound`, how many digits other exponents
have at least, and what stands for the values that are no finite numbers. -/
structure Layout where
  least : Int
  bound : Int
  exponentDigits : Nat
  infinity : String
  nan : String

/-- Numbers inside running text. -/
def Layout.plain : Layout := ⟨-4, 16, 2, "inf", "nan"⟩

/-- Numbers inside JSON text, where infinities have names. -/
def Layout.json : Layout := ⟨-4, 16, 2, "Infinity", "NaN"⟩

/-- Numbers of a written view, where a number that is not finite becomes null. -/
def Layout.view : Layout := ⟨-5, 16, 1, "null", "null"⟩

/-- An exponent with its sign and at least `width` digits. -/
def exponentText (width : Nat) (e : Int) : String :=
  let digits := Nat.toDigits 10 e.natAbs
  (if e < 0 then "e-" else "e+") ++
    String.ofList (List.replicate (width - digits.length) '0' ++ digits)

/-- The digits of a decimal, whose leading digit has the exponent `lead`, in the given layout. -/
def Layout.write (layout : Layout) (digits : List Char) (lead : Int) : String :=
  if layout.least ≤ lead && lead < layout.bound then
    if lead < 0 then
      "0." ++ String.ofList (List.replicate (-lead - 1).toNat '0' ++ digits)
    else
      let whole := digits.take (lead.toNat + 1)
      let rest := digits.drop (lead.toNat + 1)
      String.ofList (whole ++ List.replicate (lead.toNat + 1 - whole.length) '0') ++ "." ++
        (if rest.isEmpty then "0" else String.ofList rest)
  else
    match digits with
    | [] => ""
    | d :: rest =>
      String.ofList (if rest.isEmpty then [d] else d :: '.' :: rest) ++
        exponentText layout.exponentDigits lead

/-- The text of a number in a layout. -/
def text (layout : Layout) (x : Binary64) : String :=
  let sign := if x.negative then "-" else ""
  match x.magnitude with
  | .finite m q =>
    if m = 0 then sign ++ "0.0"
    else
      let d := shortest m q
      let digits := Nat.toDigits 10 d.digits
      sign ++ layout.write digits (d.exponent + digits.length - 1)
  | .infinite => if layout.infinity == "null" then "null" else sign ++ layout.infinity
  | .nan => layout.nan

end RamlDocs.Binary64
