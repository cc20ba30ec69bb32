import RamlDocs.Number.Arithmetic
import RamlDocs.Yaml.Problem
import RamlDocs.Yaml.Tag

/-!
# Scalars

How the characters of a scalar are read under its tag: as null, a boolean, a number, a text, bytes
or a point in time, all of which can be keys. A tag that does not suit the characters is a fault of
its own.
-/

namespace RamlDocs.Yaml.Scalar

/-! ## Numbers -/

/-- A sign at the start of a number, and the rest. There has to be something. -/
def splitSign (cs : List Char) : Except Fault (Bool × List Char) :=
  match cs with
  | [] => .error .emptyNumber
  | '-' :: rest => .ok (true, rest)
  | '+' :: rest => .ok (false, rest)
  | _ => .ok (false, cs)

/-- How much of a text messages about integers show. -/
def shownLength : Nat := 200

/-- The integer that a text denotes in a base. -/
def intIn (base : Nat) (cs : List Char) : Except Fault Int :=
  match Numeral.readInt base (String.ofList cs) with
  | .ok n => .ok n
  | .error f => .error (.noInteger base (String.ofList ((Text.quote cs).take shownLength)) f)

/-- The integer that a text spells: in base two, sixteen or eight by its first characters, in
sixtieths if there are colons, else in base ten. -/
def readInt (text : List Char) : Except Fault Int := do
  let (minus, cs) ← splitSign (text.filter (· != '_'))
  let n ←
    match cs with
    | [] => .error .emptyNumber
    | ['0'] => pure 0
    | '0' :: 'b' :: ds => intIn 2 ds
    | '0' :: 'x' :: ds => intIn 16 ds
    | '0' :: _ => intIn 8 cs
    | _ =>
      if cs.contains ':' then do
        let parts ← (Text.splitWhere (· == ':') cs).mapM (intIn 10)
        pure (parts.foldl (fun n part => n * 60 + part) 0)
      else intIn 10 cs
  pure (if minus then -n else n)

/-- The decimal that a text denotes. -/
def floatOf (cs : List Char) : Except Fault Binary64 :=
  match Numeral.readFloat? (String.ofList cs) with
  | some x => .ok x
  | none => .error (.noNumber (String.ofList (Text.quote cs)))

/-- The sum of the parts, each times sixty to the power of its place, the last place first. -/
def sumSixtieths : Nat → Binary64 → List Binary64 → Except Fault Binary64
  | _, sum, [] => .ok sum
  | base, sum, x :: xs =>
    match Binary64.ofNat? base with
    | some b => sumSixtieths (base * 60) (sum.add (x.mul b)) xs
    | none => .error .numberTooLarge

/-- The floating point number that a text spells, with the words for infinity and for no number,
or in sixtieths. -/
def readFloat (text : List Char) : Except Fault Binary64 := do
  let (minus, cs) ← splitSign (Text.lower (text.filter (· != '_')))
  if cs == ".nan".toList then pure Binary64.nan
  else
    let x ←
      if cs == ".inf".toList then pure Binary64.positiveInfinity
      else if cs.contains ':' then do
        let parts ← (Text.splitWhere (· == ':') cs).mapM floatOf
        sumSixtieths 1 ⟨0⟩ parts.reverse
      else floatOf cs
    pure (if minus then x.negate else x)

/-! ## Bytes -/

/-- The value of a digit in base sixty-four. -/
def sixBits? (c : Char) : Option Nat :=
  if 'A' ≤ c && c ≤ 'Z' then some (c.toNat - 65)
  else if 'a' ≤ c && c ≤ 'z' then some (c.toNat - 71)
  else if c.isDigit then some (c.toNat + 4)
  else if c == '+' then some 62
  else if c == '/' then some 63
  else none

/-- The bytes of digits in base sixty-four, four digits for three bytes. `place` digits of a group
and `held`, what they have left over, are read; `pads` signs of equality follow them. Characters
that are no digits are passed over. A group that ends early has to be filled up. -/
def bytesFrom (place held pads : Nat) : List Char → Option (List Nat)
  | [] => if place == 0 then some [] else none
  | '=' :: cs =>
    if 2 ≤ place then
      if 4 ≤ place + (pads + 1) then some [] else bytesFrom place held (pads + 1) cs
    else bytesFrom place held pads cs
  | c :: cs =>
    match sixBits? c with
    | none => bytesFrom place held pads cs
    | some d =>
      if place == 0 then bytesFrom 1 d 0 cs
      else if place == 1 then
        (bytesFrom 2 (d % 16) 0 cs).map ((held * 4 + d / 16) :: ·)
      else if place == 2 then
        (bytesFrom 3 (d % 4) 0 cs).map ((held * 16 + d / 4) :: ·)
      else (bytesFrom 0 0 0 cs).map ((held * 64 + d) :: ·)

/-- The bytes that a text spells. -/
def readBytes (text : List Char) : Except Problem (List Nat) :=
  if text.any (fun c => 0x80 ≤ c.toNat) then .error .malformed
  else
    match bytesFrom 0 0 0 text with
    | some bs => .ok bs
    | none => .error .malformed

/-! ## Scalars by their tag -/

/-- The truth value that a word stands for, in any case. -/
def readBool (text : List Char) : Except Fault Bool :=
  let word := Text.lower text
  match Tag.booleans.lookup (String.ofList word) with
  | some b => .ok b
  | none => .error (.noBoolean (String.ofList (Text.quote word)))

/-- The point in time that a text spells. -/
def readTimestamp (text : List Char) : Except Fault Calendar.Timestamp :=
  match Calendar.read? (Tag.dropFinalBreak text) with
  | none => .error .noDate
  | some t =>
    match Calendar.check t with
    | .ok t => .ok t
    | .error f => .error (.calendar f)

/-- A result without format trouble. -/
def ofFault {α : Type} (f : α → Key) : Except Fault α → Except Problem Key
  | .ok a => .ok (f a)
  | .error e => .error (.fault e)

/-- The value of a text under the tag of a scalar; none for all other tags. -/
def ofText? (tag : Tag) (text : String) : Option (Except Problem Key) :=
  let cs := text.toList
  match tag with
  | .text => some (.ok (.text text))
  | .int => some (ofFault .int (readInt cs))
  | .float => some (ofFault .float (readFloat cs))
  | .bool => some (ofFault .bool (readBool cs))
  | .null => some (.ok .null)
  | .binary => some ((readBytes cs).map .bytes)
  | .timestamp => some (ofFault .moment (readTimestamp cs))
  | _ => none

end RamlDocs.Yaml.Scalar
