import RamlDocs.Yaml.Token

/-!
# The tokens of a text

`Layout.tokens` walks through a text. Indentation opens and closes blocks: `margin` is the least
column of what may still belong to the innermost open block, zero outside all blocks. A scalar or
collection turns out to be a key only when a colon follows on the same line, not too far away; until
then it is a candidate, and the tokens that say so are put in front of it afterwards.
-/

namespace RamlDocs.Yaml

/-- A token that may turn out to start a key: its number among the tokens and its place. At the
margin of a block nothing but a key may stand. -/
structure Candidate where
  number : Nat
  required : Bool
  index : Nat
  line : Nat
  column : Nat

/-- How many characters a key may have on its line. -/
def keyLength : Nat := 1024

/-- A text on the way to its tokens. The tokens found come last first; each level of brackets
has at most one candidate. -/
structure Layout where
  cursor : Cursor
  depth : Nat
  margin : Nat
  outer : List Nat
  keyAllowed : Bool
  candidates : List (Nat × Candidate)
  found : List Token
  count : Nat

/-- The tokens of a text up to its end or to the first problem. -/
structure Tokens where
  tokens : List Token
  problem : Option Problem

namespace Layout

/-- A text before its first token. -/
def start (text : List Char) : Layout := ⟨.start text, 0, 0, [], true, [], [], 0⟩

/-- Whether the place is inside brackets. -/
def inFlow (l : Layout) : Bool := l.depth != 0

/-- One more token. -/
def push (l : Layout) (t : Token) : Layout := { l with found := t :: l.found, count := l.count + 1 }

/-! ## Candidates -/

/-- The candidate of the current level dropped. -/
def dropCandidate (l : Layout) : Except Problem Layout :=
  match l.candidates.lookup l.depth with
  | some c =>
    if c.required then .error .malformed
    else .ok { l with candidates := l.candidates.filter fun e => e.1 != l.depth }
  | none => .ok l

/-- The next token noted as a candidate, where a key may stand. -/
def noteCandidate (l : Layout) : Except Problem Layout :=
  if l.keyAllowed then do
    let required := !l.inFlow && l.margin == l.cursor.column + 1
    let l ← l.dropCandidate
    let c : Candidate := ⟨l.count, required, l.cursor.index, l.cursor.line, l.cursor.column⟩
    .ok { l with candidates := (l.depth, c) :: l.candidates }
  else .ok l

/-- Whether no colon can make the candidate a key any more. -/
def isStale (l : Layout) (c : Candidate) : Bool :=
  c.line != l.cursor.line || keyLength < l.cursor.index - c.index

/-- Stale candidates dropped. -/
def dropStale (l : Layout) : Except Problem Layout :=
  if l.candidates.any fun e => l.isStale e.2 && e.2.required then .error .malformed
  else .ok { l with candidates := l.candidates.filter fun e => !l.isStale e.2 }

/-! ## Blocks -/

/-- The blocks closed whose contents stand right of `column`; all of them for `none`. -/
def closeFrom (column : Option Nat) : List Nat → Layout → Layout
  | [], l => l
  | m :: outer, l =>
    if (column.map (· + 1)).getD 0 < l.margin then
      closeFrom column outer { l.push .closeBlock with margin := m, outer }
    else l

/-- Blocks that a token at the cursor does not belong to are closed; brackets keep them open. -/
def closeBlocks (l : Layout) : Layout :=
  if l.inFlow then l else closeFrom (some l.cursor.column) l.outer l

/-- All blocks closed, outside of brackets. -/
def closeAllBlocks (l : Layout) : Layout := if l.inFlow then l else closeFrom none l.outer l

/-- A block opened at `column` if that is right of the open ones. -/
def indentTo (l : Layout) (column : Nat) : Option Layout :=
  if l.margin ≤ column then some { l with margin := column + 1, outer := l.margin :: l.outer }
  else none

/-- The token for an opened block, if one opens at the cursor. -/
def openBlock (l : Layout) (t : Token) : Layout :=
  match l.indentTo l.cursor.column with
  | some l => l.push t
  | none => l

/-! ## One token -/

/-- Past `n` characters with one more token. -/
def take (l : Layout) (n : Nat) (t : Token) : Layout :=
  { l with cursor := l.cursor.skip n }.push t

/-- The end of the text. -/
def textEnd (l : Layout) : Except Problem Layout := do
  let l ← l.closeAllBlocks.dropCandidate
  .ok ({ l with keyAllowed := false, candidates := [] }.push .textEnd)

/-- A directive. -/
def directive (l : Layout) : Except Problem Layout := do
  let l ← l.closeAllBlocks.dropCandidate
  let (t, k) ← directiveToken l.cursor
  .ok ({ l with keyAllowed := false, cursor := k }.push t)

/-- The mark of a document. -/
def documentMark (l : Layout) (t : Token) : Except Problem Layout := do
  let l ← l.closeAllBlocks.dropCandidate
  .ok ({ l with keyAllowed := false }.take 3 t)

/-- An opening bracket. -/
def openBracket (l : Layout) (t : Token) : Except Problem Layout := do
  let l ← l.noteCandidate
  .ok ({ l with depth := l.depth + 1, keyAllowed := true }.take 1 t)

/-- A closing bracket. -/
def closeBracket (l : Layout) (t : Token) : Except Problem Layout := do
  let l ← l.dropCandidate
  .ok ({ l with depth := l.depth - 1, keyAllowed := false }.take 1 t)

/-- A comma between brackets. -/
def comma (l : Layout) : Except Problem Layout := do
  let l ← l.dropCandidate
  .ok ({ l with keyAllowed := true }.take 1 .comma)

/-- The hyphen before an item of a block. -/
def item (l : Layout) : Except Problem Layout := do
  if !l.inFlow && !l.keyAllowed then .error .malformed
  let l := if l.inFlow then l else l.openBlock .openBlockList
  let l ← l.dropCandidate
  .ok ({ l with keyAllowed := true }.take 1 .item)

/-- The question mark before a key. -/
def key (l : Layout) : Except Problem Layout := do
  if !l.inFlow && !l.keyAllowed then .error .malformed
  let l := if l.inFlow then l else l.openBlock .openBlockMap
  let l ← l.dropCandidate
  .ok ({ l with keyAllowed := !l.inFlow }.take 1 .key)

/-- The candidate of the current level made a key: its token, and that of the block it opens, are
put in front of it. -/
def confirm (l : Layout) (c : Candidate) : Layout :=
  let l := { l with candidates := l.candidates.filter fun e => e.1 != l.depth, keyAllowed := false }
  let since := l.count - c.number
  let insert (l : Layout) (ts : List Token) : Layout :=
    { l with
      found := l.found.take since ++ ts ++ l.found.drop since
      count := l.count + ts.length }
  match if l.inFlow then none else l.indentTo c.column with
  | some l => insert l [.key, .openBlockMap]
  | none => insert l [.key]

/-- The colon before a value. -/
def value (l : Layout) : Except Problem Layout :=
  match l.candidates.lookup l.depth with
  | some c => .ok ((l.confirm c).take 1 .value)
  | none => do
    if !l.inFlow && !l.keyAllowed then .error .malformed
    let l := if l.inFlow then l else l.openBlock .openBlockMap
    let l ← { l with keyAllowed := !l.inFlow }.dropCandidate
    .ok (l.take 1 .value)

/-- A token that may start a key and that `read` finds at the cursor. -/
def named (l : Layout) (read : Cursor → Except Problem (Token × Cursor)) :
    Except Problem Layout := do
  let l ← l.noteCandidate
  let (t, k) ← read l.cursor
  .ok ({ l with keyAllowed := false, cursor := k }.push t)

/-- A quoted scalar. -/
def quoted (l : Layout) (double : Bool) : Except Problem Layout :=
  l.named fun k => (quotedText double k).map fun r => (.scalar (String.ofList r.1) false, r.2)

/-- A plain scalar. A line that ends behind it allows a key on the next one. -/
def plain (l : Layout) : Except Problem Layout := do
  let l ← l.noteCandidate
  let (text, k, crossed) := plainText l.inFlow l.margin l.cursor
  .ok ({ l with keyAllowed := crossed, cursor := k }.push (.scalar (String.ofList text) true))

/-- A scalar as a block of lines. -/
def block (l : Layout) (fold : Bool) : Except Problem Layout := do
  let l ← { l with keyAllowed := true }.dropCandidate
  let (text, k) ← blockText fold l.margin l.cursor.next
  .ok ({ l with cursor := k }.push (.scalar (String.ofList text) false))

/-- Whether a plain scalar can start at the cursor. -/
def startsPlain (l : Layout) : Bool :=
  let c := l.cursor.peek
  let signs := ['-', '?', ':', ',', '[', ']', '{', '}', '#', '&', '*', '!', '|', '>', '\x27', '\x22',
    '%', '@', '\x60']
  !(isGap c || signs.contains c) ||
    (!isGap (l.cursor.ahead 1) && (c == '-' || (!l.inFlow && (c == '?' || c == ':'))))

/-- The next token, which starts at the cursor. -/
def token (l : Layout) : Except Problem Layout :=
  let k := l.cursor
  let c := k.peek
  let apart := l.inFlow || isGap (k.ahead 1)
  if k.rest.isEmpty then l.textEnd
  else if c == '%' && k.column == 0 then l.directive
  else if k.column == 0 && k.isAtMark '-' then l.documentMark .documentStart
  else if k.column == 0 && k.isAtMark '.' then l.documentMark .documentEnd
  else if c == '[' then l.openBracket .openList
  else if c == '{' then l.openBracket .openMap
  else if c == ']' then l.closeBracket .closeList
  else if c == '}' then l.closeBracket .closeMap
  else if c == ',' then l.comma
  else if c == '-' && isGap (k.ahead 1) then l.item
  else if c == '?' && apart then l.key
  else if c == ':' && apart then l.value
  else if c == '*' then l.named fun k => (anchorName k).map fun r => (.reference r.1, r.2)
  else if c == '&' then l.named fun k => (anchorName k).map fun r => (.anchor r.1, r.2)
  else if c == '!' then l.named tagToken
  else if c == '|' && !l.inFlow then l.block false
  else if c == '>' && !l.inFlow then l.block true
  else if c == '\x27' then l.quoted false
  else if c == '\x22' then l.quoted true
  else if l.startsPlain then l.plain
  else .error .malformed

/-! ## All tokens -/

/-- Past spaces, comments and line ends. Outside brackets a key may start on a new line. -/
def skipGap : Nat → Layout → Layout
  | 0, l => l
  | fuel + 1, l =>
    let k := l.cursor.skipSpaces
    let k := if k.peek == '#' then k.skipLine else k
    if isBreak k.peek then
      skipGap fuel { l with cursor := k.lineBreak.2, keyAllowed := l.keyAllowed || !l.inFlow }
    else { l with cursor := k }

/-- The layout with the next token found. -/
def next (l : Layout) : Except Problem Layout := do
  let l := { l with
    cursor := if l.cursor.index == 0 && l.cursor.peek == byteOrderMark then l.cursor.next
      else l.cursor }
  let l ← (l.skipGap (l.cursor.rest.length + 1)).dropStale
  l.closeBlocks.token

/-- The tokens whose role is settled: those before the first candidate. -/
def settled (l : Layout) : List Token :=
  let first := l.candidates.foldl (fun n e => min n e.2.number) l.count
  l.found.reverse.take first

/-- The tokens from here on. -/
def tokensFrom : Nat → Layout → Tokens
  | 0, l => ⟨l.settled, some .malformed⟩
  | fuel + 1, l =>
    match l.next with
    | .error p => ⟨l.settled, some p⟩
    | .ok l => if l.found.head? == some .textEnd then ⟨l.found.reverse, none⟩ else tokensFrom fuel l

/-- The tokens of a text. Each of them but the tokens of opened and closed blocks takes at least
one character. -/
def tokens (text : List Char) : Tokens :=
  if text.all isPrintable then tokensFrom (text.length + 2) (start text)
  else ⟨[], some .malformed⟩

end Layout

end RamlDocs.Yaml
