import RamlDocs.Number.Binary64
import RamlDocs.Text.Digit

/-!
# Numerals

Integers and decimals as people write them: blanks around, a sign, digits of any script, and
single low lines between digits. An integer in base sixteen, eight or two may carry the mark of
its base. Decimal integers of more than `digitLimit` digits are refused, in reading and in writing
(`Numeral.isShort`).
-/

namespace RamlDocs.Numeral

/-- Why a text is no numeral. -/
inductive Fault where
  | malformed
  | tooLong (digits : Nat)
  deriving DecidableEq, Repr

/-- The greatest number of digits of a decimal integer. -/
def digitLimit : Nat := 4300

/-- Blanks around numerals; of the control characters only those from tab to carriage return. -/
def isBlank (c : Char) : Bool :=
  if c.toNat < 0x80 then c.toNat == 32 || (9 ≤ c.toNat && c.toNat ≤ 13) else Text.isBlank c

/-- The text without the blanks around it. -/
def trim (cs : List Char) : List Char := Text.dropRightWhile isBlank (cs.dropWhile isBlank)

/-- A sign at the start, and what follows it. -/
def splitSign : List Char → Bool × List Char
  | '-' :: cs => (true, cs)
  | '+' :: cs => (false, cs)
  | cs => (false, cs)

/-- The mark of a base, with one low line after it, is dropped from the start. -/
def dropBaseMark (base : Nat) : List Char → List Char
  | '0' :: x :: cs =>
    if (base == 16 && x.toLower == 'x') || (base == 8 && x.toLower == 'o') ||
        (base == 2 && x.toLower == 'b') then
      match cs with
      | '_' :: rest => rest
      | rest => rest
    else '0' :: x :: cs
  | cs => cs

/-- The values of digits with single low lines between them; none for anything else. `expected`
says that a digit has to come next. -/
def digits? (base : Nat) (expected : Bool) : List Char → Option (List Nat)
  | [] => if expected then none else some []
  | '_' :: cs => if expected then none else digits? base true cs
  | c :: cs =>
    match Text.digitValueIn? base c with
    | some d => (digits? base false cs).map (d :: ·)
    | none => none

/-- The numbers that are written in full are below this one: those of at most `digitLimit`
digits. -/
def bound : Nat := Nat.pow 10 digitLimit

/-- Whether an integer is short enough to be written in full. -/
def isShort (n : Int) : Bool := n.natAbs < bound

/-- The number that digits denote in a base. -/
def ofDigits (base : Nat) (digits : List Nat) : Nat := digits.foldl (fun n d => n * base + d) 0

/-- The integer that a text denotes in a base. -/
def readInt (base : Nat) (s : String) : Except Fault Int :=
  let (minus, body) := splitSign (trim s.toList)
  match digits? base true (dropBaseMark base body) with
  | none => .error .malformed
  | some ds =>
    if base == 10 && digitLimit < ds.length then .error (.tooLong ds.length)
    else
      let n : Int := ofDigits base ds
      .ok (if minus then -n else n)

/-- The decimal digits at the start of a text and the rest. -/
def spanDigits (cs : List Char) : List Char × List Char :=
  cs.span (fun c => (Text.digitValue? c).isSome)

/-- The number denoted by a run of decimal digits. -/
def ofDigitChars (cs : List Char) : Nat :=
  ofDigits 10 (cs.filterMap Text.digitValue?)

/-- The floating point number that a text without low lines denotes: digits with or without a
point, an exponent, or one of the words for infinity and for no number. -/
def readFloat? (s : String) : Option Binary64 :=
  let (minus, body) := splitSign (trim s.toList)
  let signed (x : Binary64) : Binary64 := if minus then x.negate else x
  let word := String.ofList (body.map Char.toLower)
  if word == "inf" || word == "infinity" then some (signed Binary64.positiveInfinity)
  else if word == "nan" then some (signed Binary64.nan)
  else
    let (whole, rest) := spanDigits body
    let (places, rest) :=
      match rest with
      | '.' :: more => spanDigits more
      | more => ([], more)
    if whole.isEmpty && places.isEmpty then none
    else
      let exponent? : Option Int :=
        match rest with
        | [] => some 0
        | e :: more =>
          if e == 'e' || e == 'E' then
            let (down, more) := splitSign more
            let (power, rest) := spanDigits more
            if power.isEmpty || !rest.isEmpty then none
            else some (if down then -(ofDigitChars power : Int) else ofDigitChars power)
          else none
      exponent?.map fun e =>
        signed (Binary64.ofDecimal (ofDigitChars (whole ++ places)) (e - places.length))

/-- What is said where an integer has too many digits, with a remark on their number. -/
def limitMessage (remark : String) : String :=
  s!"Exceeds the limit ({digitLimit} digits) for integer string conversion" ++ remark ++
    "; use sys.set_int_max_str_digits() to increase the limit"

/-- The message for a text that is no integer in a base. -/
def Fault.message (base : Nat) (shown : String) : Fault → String
  | .malformed => s!"invalid literal for int() with base {base}: " ++ shown
  | .tooLong n => limitMessage s!": value has {n} digits"

end RamlDocs.Numeral
