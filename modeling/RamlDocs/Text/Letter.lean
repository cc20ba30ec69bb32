import RamlDocs.Text.Blank
import RamlDocs.Text.CaseTable
import RamlDocs.Text.WordTable

/-!
# Letters: word characters and case

Which characters make up words, and the upper and lower case of a text. The upper case of one
character can be a text of several characters; the lower case of a capital sigma depends on its
neighbours.
-/

namespace RamlDocs.Text

/-- Whether `n` lies in one of the closed intervals of `ranges`. -/
def inRanges (ranges : Array (Nat × Nat)) (n : Nat) : Bool :=
  ranges.any fun r => r.1 ≤ n && n ≤ r.2

/-- Letters and numbers of any script. -/
def isAlphanumeric (c : Char) : Bool :=
  if c.toNat < 0x80 then c.isAlphanum else inRanges wordRanges c.toNat

/-- Characters of words: letters, numbers and the low line. -/
def isWord (c : Char) : Bool := isAlphanumeric c || c == '_'

/-- Where `n` is moved by the first run that holds it. -/
def shifted? (runs : Array CaseRun) (n : Nat) : Option Nat :=
  (runs.find? fun r => r.first ≤ n && n ≤ r.last && (n - r.first) % r.step == 0).map
    fun r => ((n : Int) + r.shift).toNat

/-- The upper case of one character. -/
def upperChar (c : Char) : List Char :=
  let n := c.toNat
  if n < 0x80 then [c.toUpper]
  else
    match upperSequences.find? (·.1 == n) with
    | some entry => entry.2.map Char.ofNat
    | none => [((shifted? upperRuns n).map Char.ofNat).getD c]

/-- The upper case of a text. -/
def upper (cs : List Char) : List Char := cs.flatMap upperChar

/-- The lower case of one character that stands alone. The dotted capital I keeps its dot as a
combining character. -/
def lowerChar (c : Char) : List Char :=
  let n := c.toNat
  if n < 0x80 then [c.toLower]
  else if n == 0x130 then ['i', Char.ofNat 0x307]
  else [((shifted? lowerRuns n).map Char.ofNat).getD c]

/-- Cased letters that are not skipped when a neighbouring letter is looked for. -/
def isCased (c : Char) : Bool :=
  if c.toNat < 0x80 then c.isAlpha else inRanges casedRanges c.toNat

/-- Characters that are skipped when a neighbouring cased letter is looked for. -/
def isCaseIgnorable (c : Char) : Bool :=
  let n := c.toNat
  if n < 0x80 then n == 0x27 || n == 0x2e || n == 0x3a || n == 0x5e || n == 0x60
  else inRanges ignorableRanges n

/-- Whether the first character of `cs` that is not skipped is a cased letter. -/
def meetsCased (cs : List Char) : Bool :=
  match cs.dropWhile isCaseIgnorable with
  | [] => false
  | c :: _ => isCased c

/-- Lower case of the text that follows `before` (its characters in reverse order). A capital
sigma after a cased letter and before none ends its word. -/
def lowerAfter (before : List Char) : List Char → List Char
  | [] => []
  | c :: cs =>
    (if c.toNat == 0x3a3 then
      [Char.ofNat (if meetsCased before && !meetsCased cs then 0x3c2 else 0x3c3)]
    else lowerChar c) ++ lowerAfter (c :: before) cs

/-- The lower case of a text. -/
def lower (cs : List Char) : List Char := lowerAfter [] cs

/-- The text `s` in upper case. -/
def uppercased (s : String) : String := String.ofList (upper s.toList)

/-- The text `s` in lower case. -/
def lowercased (s : String) : String := String.ofList (lower s.toList)

/-- `cs` with its first character in upper case. -/
def capitalize : List Char → List Char
  | [] => []
  | c :: cs => upperChar c ++ cs

/-- `cs` with its first character in lower case. -/
def decapitalize : List Char → List Char
  | [] => []
  | c :: cs => lower [c] ++ cs

/-- The text `s` with its first character in upper case. -/
def capitalized (s : String) : String := String.ofList (capitalize s.toList)

end RamlDocs.Text
