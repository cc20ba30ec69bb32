/-!
# Places in a text

`Cursor` is what is left of a text together with the line and the column reached. The layout of
a file is told by columns, and how long a key may be by the number of characters passed. At the
end of the text every look ahead finds the null character, which no readable text holds.
-/

namespace RamlDocs.Yaml

/-- The character found at the end of a text. -/
def endMark : Char := '\x00'

/-- Characters that end a line. -/
def isBreak (c : Char) : Bool :=
  c == '\n' || c == '\r' || c == '\x85' || c == '\u2028' || c == '\u2029'

/-- Whether a character ends a line or the text. -/
def isLineOver (c : Char) : Bool := isBreak c || c == endMark

/-- Whether a character ends a line or the text, or is a space. -/
def isSpaceOrOver (c : Char) : Bool := isLineOver c || c == ' '

/-- Whether a character separates tokens: a blank, or the end of a line or of the text. -/
def isGap (c : Char) : Bool := isSpaceOrOver c || c == '\t'

/-- Letters, digits, the low line and the hyphen, which names are made of. -/
def isNameChar (c : Char) : Bool := c.isAlphanum || c == '-' || c == '_'

/-- The mark of the byte order. -/
def byteOrderMark : Char := '\ufeff'

/-- Whether a file may hold a character at all. -/
def isPrintable (c : Char) : Bool :=
  let n := c.toNat
  n == 0x9 || n == 0xa || n == 0xd || (0x20 ≤ n && n ≤ 0x7e) || n == 0x85 ||
    (0xa0 ≤ n && n ≤ 0xd7ff) || (0xe000 ≤ n && n ≤ 0xfffd) || 0x10000 ≤ n

/-- What is left of a text, with the number of characters, lines and columns passed. -/
structure Cursor where
  rest : List Char
  index : Nat
  line : Nat
  column : Nat

namespace Cursor

/-- The start of a text. -/
def start (text : List Char) : Cursor := ⟨text, 0, 0, 0⟩

/-- The character `n` places ahead. -/
def ahead (k : Cursor) (n : Nat) : Char := (k.rest[n]?).getD endMark

/-- The character at the cursor. -/
def peek (k : Cursor) : Char := k.ahead 0

/-- Past one character. A line end begins a line; the byte order mark takes no column. -/
def next (k : Cursor) : Cursor :=
  match k.rest with
  | [] => k
  | c :: rest =>
    if isBreak c && !(c == '\r' && rest.head? == some '\n') then ⟨rest, k.index + 1, k.line + 1, 0⟩
    else if c == byteOrderMark then ⟨rest, k.index + 1, k.line, k.column⟩
    else ⟨rest, k.index + 1, k.line, k.column + 1⟩

/-- Past `n` characters. -/
def skip : Nat → Cursor → Cursor
  | 0, k => k
  | n + 1, k => skip n k.next

/-- The characters before the first that fails `p`. -/
def run (k : Cursor) (p : Char → Bool) : List Char := k.rest.takeWhile p

/-- Past all characters before the first that fails `p`. -/
def skipRun (k : Cursor) (p : Char → Bool) : Cursor := k.skip (k.run p).length

/-- Past the spaces. -/
def skipSpaces (k : Cursor) : Cursor := k.skipRun (· == ' ')

/-- Past the rest of the line, to its end. -/
def skipLine (k : Cursor) : Cursor := k.skipRun (fun c => !isBreak c)

/-- Past one line end: what it stands for in a text, and the place after it. Away from a line end
nothing is passed. -/
def lineBreak (k : Cursor) : List Char × Cursor :=
  match k.rest with
  | '\r' :: '\n' :: _ => (['\n'], k.skip 2)
  | c :: _ =>
    if c == '\n' || c == '\r' || c == '\x85' then (['\n'], k.next)
    else if isBreak c then ([c], k.next)
    else ([], k)
  | [] => ([], k)

/-- Whether three equal characters `c`, followed by a gap, stand at the cursor. -/
def isAtMark (k : Cursor) (c : Char) : Bool :=
  k.ahead 0 == c && k.ahead 1 == c && k.ahead 2 == c && isGap (k.ahead 3)

/-- Whether a line that starts or ends a document stands at the cursor. -/
def isAtDocumentMark (k : Cursor) : Bool := k.isAtMark '-' || k.isAtMark '.'

end Cursor

end RamlDocs.Yaml
