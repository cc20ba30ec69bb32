import RamlDocs.Number.Numeral
import RamlDocs.Value.Basic

/-!
# Reading JSON

`Json.read` reads one JSON text into a value. Names of an object keep their first position and
take their last value. Besides numbers the names of the infinities and of what is no number are
read. A text that is no JSON is answered by the complaint and the place it is about; `Fault.message`
words it.
-/

namespace RamlDocs.Json

/-- What is wrong at a place of the text. -/
inductive Complaint where
  | byteOrderMark
  | value
  | name
  | colon
  | comma
  | control
  | unterminated
  | backslash
  | unicode
  | extra
  deriving DecidableEq, Repr

/-- Why a text is no JSON: a complaint with the number of characters left from its place on, or
an integer of too many digits. -/
inductive Fault where
  | located (what : Complaint) (left : Nat)
  | tooLong (digits : Nat)
  deriving DecidableEq, Repr

/-- A complaint about the first character of `cs`. -/
def fail {α : Type} (what : Complaint) (cs : List Char) : Except Fault α :=
  .error (.located what cs.length)

/-- Blanks between tokens. -/
def isBlank (c : Char) : Bool := c == ' ' || c == '\t' || c == '\n' || c == '\r'

/-- The text from its first token on. -/
def skipBlanks (cs : List Char) : List Char := cs.dropWhile isBlank

/-- The value of a hexadecimal digit. -/
def hexValue? (c : Char) : Option Nat :=
  if c.isDigit then some (c.toNat - 48)
  else if 'a' ≤ c ∧ c ≤ 'f' then some (c.toNat - 87)
  else if 'A' ≤ c ∧ c ≤ 'F' then some (c.toNat - 55)
  else none

/-- The number of four hexadecimal digits that are followed by something. -/
def hexFour? : List Char → Option (Nat × List Char)
  | a :: b :: c :: d :: e :: rest =>
    match hexValue? a, hexValue? b, hexValue? c, hexValue? d with
    | some a, some b, some c, some d => some (((a * 16 + b) * 16 + c) * 16 + d, e :: rest)
    | _, _, _, _ => none
  | _ => none

/-- The character of a code unit; half of a pair by itself is replaced. -/
def unitChar (n : Nat) : Char :=
  if 0xd800 ≤ n ∧ n < 0xe000 then Char.ofNat 0xfffd else Char.ofNat n

/-- The character named by an escape of one letter. -/
def escaped? : Char → Option Char
  | '\x22' => some '\x22'
  | '\\' => some '\\'
  | '/' => some '/'
  | 'b' => some '\x08'
  | 'f' => some '\x0c'
  | 'n' => some '\n'
  | 'r' => some '\r'
  | 't' => some '\t'
  | _ => none

/-- The characters up to the closing quote, after those in `acc` (in reverse order). The opening
quote is the first character of `start`. -/
def readChars (start : List Char) : Nat → List Char → List Char → Except Fault (String × List Char)
  | 0, _, _ => fail .unterminated start
  | _ + 1, _, [] => fail .unterminated start
  | fuel + 1, acc, c :: cs =>
    if c == '\x22' then .ok (String.ofList acc.reverse, cs)
    else if c == '\\' then
      match cs with
      | [] => fail .unterminated start
      | 'u' :: hex =>
        match hexFour? hex with
        | none => fail .unicode cs
        | some (high, rest) =>
          if 0xd800 ≤ high ∧ high < 0xdc00 then
            match rest with
            | '\\' :: 'u' :: more =>
              if 5 ≤ more.length then
                match hexFour? more with
                | none => fail .unicode ('u' :: more)
                | some (low, tail) =>
                  if 0xdc00 ≤ low ∧ low < 0xe000 then
                    let point := 0x10000 + (high - 0xd800) * 0x400 + (low - 0xdc00)
                    readChars start fuel (Char.ofNat point :: acc) tail
                  else readChars start fuel (unitChar high :: acc) rest
              else readChars start fuel (unitChar high :: acc) rest
            | _ => readChars start fuel (unitChar high :: acc) rest
          else readChars start fuel (unitChar high :: acc) rest
      | e :: rest =>
        match escaped? e with
        | some d => readChars start fuel (d :: acc) rest
        | none => fail .backslash (c :: cs)
    else if c.toNat < 0x20 then fail .control (c :: cs)
    else readChars start fuel (c :: acc) cs

/-- A text whose opening quote is the first character of `cs`. -/
def readText (cs : List Char) : Except Fault (String × List Char) :=
  readChars cs (cs.length + 1) [] (cs.drop 1)

/-- The digits after a point, with the text after them. -/
def spanFraction : List Char → Option (List Char × List Char)
  | '.' :: cs =>
    let (digits, rest) := cs.span Char.isDigit
    if digits.isEmpty then none else some (digits, rest)
  | _ => none

/-- An exponent, with the text after it. -/
def spanExponent : List Char → Option (Int × List Char)
  | e :: cs =>
    if e == 'e' || e == 'E' then
      let (minus, body) := Numeral.splitSign cs
      let (digits, rest) := body.span Char.isDigit
      if digits.isEmpty then none
      else
        let n : Int := Numeral.ofDigitChars digits
        some (if minus then -n else n, rest)
    else none
  | [] => none

/-- The digits before the point of a number: a single zero, or digits that start with no zero. -/
def spanWhole (cs : List Char) : Option (List Char × List Char) :=
  match cs with
  | '0' :: rest => some (['0'], rest)
  | c :: _ => if c.isDigit then some (cs.span Char.isDigit) else none
  | [] => none

/-- A number. With a point or an exponent it is a floating point number, else an integer. -/
def readNumber (limit : Option Nat) (cs : List Char) : Except Fault (Value × List Char) :=
  let (minus, body) :=
    match cs with
    | '-' :: rest => (true, rest)
    | _ => (false, cs)
  match spanWhole body with
  | none => fail .value cs
  | some (whole, rest) =>
    let signed (x : Binary64) : Binary64 := if minus then x.negate else x
    match spanFraction rest with
    | some (places, rest) =>
      let (power, rest) := (spanExponent rest).getD (0, rest)
      let digits := Numeral.ofDigitChars (whole ++ places)
      .ok (.float (signed (.ofDecimal digits (power - places.length))), rest)
    | none =>
      match spanExponent rest with
      | some (power, rest) =>
        .ok (.float (signed (.ofDecimal (Numeral.ofDigitChars whole) power)), rest)
      | none =>
        if limit.any (· < whole.length) then .error (.tooLong whole.length)
        else
          let n : Int := Numeral.ofDigitChars whole
          .ok (.int (if minus then -n else n), rest)

mutual

/-- The value at the start of the text. -/
def readValue (limit : Option Nat) : Nat → List Char → Except Fault (Value × List Char)
  | 0, cs => fail .value cs
  | fuel + 1, cs =>
    match cs with
    | '\x22' :: _ => (readText cs).map fun r => (.text r.1, r.2)
    | '{' :: rest =>
      match skipBlanks rest with
      | '}' :: rest => .ok (.map [], rest)
      | rest => readMembers limit fuel [] rest
    | '[' :: rest =>
      match skipBlanks rest with
      | ']' :: rest => .ok (.list [], rest)
      | rest => readItems limit fuel [] rest
    | 'n' :: 'u' :: 'l' :: 'l' :: rest => .ok (.null, rest)
    | 't' :: 'r' :: 'u' :: 'e' :: rest => .ok (.bool true, rest)
    | 'f' :: 'a' :: 'l' :: 's' :: 'e' :: rest => .ok (.bool false, rest)
    | 'N' :: 'a' :: 'N' :: rest => .ok (.float .nan, rest)
    | 'I' :: 'n' :: 'f' :: 'i' :: 'n' :: 'i' :: 't' :: 'y' :: rest =>
      .ok (.float .positiveInfinity, rest)
    | '-' :: 'I' :: 'n' :: 'f' :: 'i' :: 'n' :: 'i' :: 't' :: 'y' :: rest =>
      .ok (.float Binary64.positiveInfinity.negate, rest)
    | cs => readNumber limit cs

/-- The members of an object from a name on, after those in `acc`. -/
def readMembers (limit : Option Nat) :
    Nat → Mapping → List Char → Except Fault (Value × List Char)
  | 0, _, cs => fail .value cs
  | fuel + 1, acc, cs =>
    match cs with
    | '\x22' :: _ => do
      let (name, rest) ← readText cs
      match skipBlanks rest with
      | ':' :: rest => do
        let (v, rest) ← readValue limit fuel (skipBlanks rest)
        let acc := Mapping.set acc name v
        match skipBlanks rest with
        | '}' :: rest => .ok (.map acc, rest)
        | ',' :: rest => readMembers limit fuel acc (skipBlanks rest)
        | rest => fail .comma rest
      | rest => fail .colon rest
    | cs => fail .name cs

/-- The items of an array from a value on, after those in `acc` (in reverse order). -/
def readItems (limit : Option Nat) :
    Nat → List Value → List Char → Except Fault (Value × List Char)
  | 0, _, cs => fail .value cs
  | fuel + 1, acc, cs => do
    let (v, rest) ← readValue limit fuel cs
    match skipBlanks rest with
    | ']' :: rest => .ok (.list (v :: acc).reverse, rest)
    | ',' :: rest => readItems limit fuel (v :: acc) (skipBlanks rest)
    | rest => fail .comma rest

end

/-- The value of a whole text, with a limit on the digits of integers. Every step of the reader
takes a character or is followed by one that does, so twice the length is fuel enough. -/
def readWith (limit : Option Nat) (cs : List Char) : Except Fault Value :=
  match cs with
  | '\ufeff' :: _ => fail .byteOrderMark cs
  | _ => do
    let (v, rest) ← readValue limit (2 * cs.length + 2) (skipBlanks cs)
    match skipBlanks rest with
    | [] => .ok v
    | rest => fail .extra rest

/-- The value of a whole text. -/
def read (s : String) : Except Fault Value := readWith (some Numeral.digitLimit) s.toList

/-- The wording of a complaint. -/
def Complaint.message : Complaint → String
  | .byteOrderMark => "Unexpected UTF-8 BOM (decode using utf-8-sig)"
  | .value => "Expecting value"
  | .name => "Expecting property name enclosed in double quotes"
  | .colon => "Expecting ':' delimiter"
  | .comma => "Expecting ',' delimiter"
  | .control => "Invalid control character at"
  | .unterminated => "Unterminated string starting at"
  | .backslash => "Invalid \\escape"
  | .unicode => "Invalid \\uXXXX escape"
  | .extra => "Extra data"

/-- The wording of a fault in the text `s`, with line and column of its place, counted from one,
and the number of characters before it. -/
def Fault.message (s : String) : Fault → String
  | .located what left =>
    let offset := s.length - left
    let before := s.toList.take offset
    let line := before.count '\n' + 1
    let column := (before.reverse.takeWhile (· != '\n')).length + 1
    what.message ++ s!": line {line} column {column} (char {offset})"
  | .tooLong n => (Numeral.Fault.tooLong n).message 10 ""

end RamlDocs.Json
