import RamlDocs.Text.Digit
import RamlDocs.Yaml.Cursor
import RamlDocs.Yaml.Problem

/-!
# Notations of scalars

A scalar stands plain, between quotes, or as a block of its own lines. Each notation says which
characters the scalar has and where it ends; line ends inside plain and quoted scalars fold to
spaces.
-/

namespace RamlDocs.Yaml

/-- The characters of a folded run of line ends: the first one gives way to a space, or to the
ones after it; a line or paragraph separator stands for itself. -/
def folded (first more : List Char) : List Char :=
  if first != ['\n'] then first ++ more else if more.isEmpty then [' '] else more

/-! ## Plain scalars -/

/-- Whether a plain scalar ends before `c` with `follower` behind it. -/
def endsPlain (inFlow : Bool) (c follower : Char) : Bool :=
  isGap c ||
    (c == ':' && (isGap follower || (inFlow && [',', '[', ']', '{', '}'].contains follower))) ||
    (inFlow && [',', '?', '[', ']', '{', '}'].contains c)

/-- The characters of a plain scalar up to a gap. -/
def plainRun (inFlow : Bool) : List Char → List Char
  | [] => []
  | c :: cs =>
    if endsPlain inFlow c ((cs.head?).getD endMark) then [] else c :: plainRun inFlow cs

/-- The line ends of blank lines, passed one character at a time; none before the mark of a
document. -/
def plainBreaks : Nat → Cursor → Option (List Char) × Cursor
  | 0, k => (some [], k)
  | fuel + 1, k =>
    if k.peek == ' ' then plainBreaks fuel k.next
    else if isBreak k.peek then
      let (b, k) := k.lineBreak
      if k.isAtDocumentMark then (none, k)
      else
        let (more, k) := plainBreaks fuel k
        (more.map (b ++ ·), k)
    else (some [], k)

/-- What a gap inside a plain scalar stands for, the place after it, and whether a line ends in
it. A gap that ends the scalar stands for nothing. -/
def plainGap (k : Cursor) : List Char × Cursor × Bool :=
  let spaces := k.run (· == ' ')
  let k := k.skipSpaces
  if isBreak k.peek then
    let (b, k) := k.lineBreak
    if k.isAtDocumentMark then ([], k, true)
    else
      match plainBreaks (k.rest.length + 1) k with
      | (none, k) => ([], k, true)
      | (some more, k) => (folded b more, k, true)
  else (spaces, k, false)

/-- A plain scalar from the cursor on, with the gap before it: its characters, the place after
it, and whether a line ends in the last gap passed. Outside brackets a line that starts before
`margin` does not continue the scalar. -/
def plainFrom (inFlow : Bool) (margin : Nat) :
    Nat → List Char → Bool → Cursor → List Char × Cursor × Bool
  | 0, _, crossed, k => ([], k, crossed)
  | fuel + 1, gap, crossed, k =>
    let run := if k.peek == '#' then [] else plainRun inFlow k.rest
    if run.isEmpty then ([], k, crossed)
    else
      let (spaces, k, crossed) := plainGap (k.skip run.length)
      if spaces.isEmpty || k.peek == '#' || (!inFlow && k.column < margin) then
        (gap ++ run, k, crossed)
      else
        let (more, k, crossed) := plainFrom inFlow margin fuel spaces crossed k
        (gap ++ run ++ more, k, crossed)

/-- The plain scalar at the cursor. -/
def plainText (inFlow : Bool) (margin : Nat) (k : Cursor) : List Char × Cursor × Bool :=
  plainFrom inFlow margin (k.rest.length + 1) [] false k

/-! ## Quoted scalars -/

/-- The character that an escape of one letter stands for. -/
def escape? : Char → Option Char
  | '0' => some '\x00'
  | 'a' => some '\x07'
  | 'b' => some '\x08'
  | 't' => some '\t'
  | '\t' => some '\t'
  | 'n' => some '\n'
  | 'v' => some '\x0b'
  | 'f' => some '\x0c'
  | 'r' => some '\r'
  | 'e' => some '\x1b'
  | ' ' => some ' '
  | '\x22' => some '\x22'
  | '\\' => some '\\'
  | '/' => some '/'
  | 'N' => some '\x85'
  | '_' => some '\xa0'
  | 'L' => some '\u2028'
  | 'P' => some '\u2029'
  | _ => none

/-- How many hexadecimal digits an escape of a character number has. -/
def escapeLength? : Char → Option Nat
  | 'x' => some 2
  | 'u' => some 4
  | 'U' => some 8
  | _ => none

/-- The number that hexadecimal digits denote. -/
def hexNumber? (cs : List Char) : Option Nat :=
  if cs.all (fun c => c.isDigit || ('a' ≤ c && c ≤ 'f') || ('A' ≤ c && c ≤ 'F')) then
    (cs.mapM (Text.digitValueIn? 16)).map fun ds => ds.foldl (fun n d => n * 16 + d) 0
  else none

/-- The character with a number. -/
def numbered (n : Nat) : Except Problem Char :=
  if n < 0x110000 then .ok (if n.isValidChar then Char.ofNat n else Char.ofNat 0xfffd)
  else if n < 0x80000000 then .error (.fault .noCharacter)
  else .error (.fault .characterTooLarge)

/-- Blank lines inside a quoted scalar. The mark of a document may not stand there. -/
def quotedBreaks : Nat → Cursor → Except Problem (List Char × Cursor)
  | 0, k => .ok ([], k)
  | fuel + 1, k =>
    if k.isAtDocumentMark then .error .malformed
    else
      let k := k.skipRun (fun c => c == ' ' || c == '\t')
      if isBreak k.peek then do
        let (b, k) := k.lineBreak
        let (more, k) ← quotedBreaks fuel k
        .ok (b ++ more, k)
      else .ok ([], k)

/-- An escape behind its backslash. -/
def escapedText (k : Cursor) : Except Problem (List Char × Cursor) :=
  let c := k.peek
  match escape? c with
  | some d => .ok ([d], k.next)
  | none =>
    match escapeLength? c with
    | some length =>
      let k := k.next
      let digits := k.rest.take length
      match if digits.length = length then hexNumber? digits else none with
      | some n => (numbered n).map fun d => ([d], k.skip length)
      | none => .error .malformed
    | none =>
      if isBreak c then quotedBreaks (k.rest.length + 1) k.lineBreak.2 else .error .malformed

/-- The characters of a quoted scalar up to a blank, a line end or the closing quote. -/
def quotedRun (double : Bool) : Nat → Cursor → Except Problem (List Char × Cursor)
  | 0, k => .ok ([], k)
  | fuel + 1, k => do
    let run := k.run (fun c => !(isGap c || c == '\x27' || c == '\x22' || c == '\\'))
    let k := k.skip run.length
    let c := k.peek
    if !double && c == '\x27' && k.ahead 1 == '\x27' then
      let (more, k) ← quotedRun double fuel (k.skip 2)
      .ok (run ++ '\x27' :: more, k)
    else if (double && c == '\x27') || (!double && (c == '\x22' || c == '\\')) then
      let (more, k) ← quotedRun double fuel k.next
      .ok (run ++ c :: more, k)
    else if double && c == '\\' then
      let (piece, k) ← escapedText k.next
      let (more, k) ← quotedRun double fuel k
      .ok (run ++ piece ++ more, k)
    else .ok (run, k)

/-- What a gap inside a quoted scalar stands for. -/
def quotedGap (k : Cursor) : Except Problem (List Char × Cursor) :=
  let isSpace (c : Char) : Bool := c == ' ' || c == '\t'
  let spaces := k.run isSpace
  let k := k.skipRun isSpace
  if k.rest.isEmpty then .error .malformed
  else if isBreak k.peek then do
    let (b, k) := k.lineBreak
    let (more, k) ← quotedBreaks (k.rest.length + 1) k
    .ok (folded b more, k)
  else .ok (spaces, k)

/-- A quoted scalar behind its opening quote, up to and with the closing quote. -/
def quotedFrom (double : Bool) : Nat → Cursor → Except Problem (List Char × Cursor)
  | 0, _ => .error .malformed
  | fuel + 1, k => do
    let (run, k) ← quotedRun double (k.rest.length + 1) k
    if k.peek == (if double then '\x22' else '\x27') then .ok (run, k.next)
    else
      let (gap, k) ← quotedGap k
      let (more, k) ← quotedFrom double fuel k
      .ok (run ++ gap ++ more, k)

/-- The quoted scalar at the cursor, which stands at the opening quote. -/
def quotedText (double : Bool) (k : Cursor) : Except Problem (List Char × Cursor) :=
  quotedFrom double (k.rest.length + 1) k.next

/-! ## Scalars as blocks of lines -/

/-- What becomes of the line ends at the end of a block: all stay, none stays, or one. -/
inductive Chomping where
  | keep
  | strip
  | clip
  deriving DecidableEq, Repr

/-- How a block is announced: what happens at its end, and by how much it is indented. -/
structure BlockHeader where
  chomping : Chomping
  indentation : Option Nat

/-- The end of a line that may hold a comment besides spaces. -/
def restOfLine (k : Cursor) : Except Problem Cursor :=
  let k := k.skipSpaces
  let k := if k.peek == '#' then k.skipLine else k
  if isLineOver k.peek then .ok k.lineBreak.2 else .error .malformed

/-- The sign for the end of a block, if it stands at the cursor. -/
def chompingAt (k : Cursor) : Option Chomping :=
  if k.peek == '+' then some .keep else if k.peek == '-' then some .strip else none

/-- The digit for the indentation, if it stands at the cursor. Zero is refused. -/
def indentationAt (k : Cursor) : Except Problem (Option Nat) :=
  if k.peek.isDigit then
    if k.peek == '0' then .error .malformed else .ok (some (k.peek.toNat - 48))
  else .ok none

/-- The header of a block with the rest of its line; sign and digit come in either order. -/
def blockHeader (k : Cursor) : Except Problem (BlockHeader × Cursor) := do
  let (header, k) ←
    match chompingAt k with
    | some chomping => do
      let k := k.next
      let indentation ← indentationAt k
      pure (BlockHeader.mk chomping indentation, if indentation.isSome then k.next else k)
    | none => do
      match ← indentationAt k with
      | some n =>
        let k := k.next
        match chompingAt k with
        | some chomping => pure (BlockHeader.mk chomping (some n), k.next)
        | none => pure (BlockHeader.mk .clip (some n), k)
      | none => pure (BlockHeader.mk .clip none, k)
  if isSpaceOrOver k.peek then (restOfLine k).map fun k => (header, k) else .error .malformed

/-- Past the spaces before the column `indent`. -/
def skipIndent (indent : Nat) (k : Cursor) : Cursor :=
  k.skip (min (k.run (· == ' ')).length (indent - k.column))

/-- The line ends of blank lines, and the place after the indentation of the next line. -/
def blockBreaks (indent : Nat) : Nat → Cursor → List Char × Cursor
  | 0, k => ([], k)
  | fuel + 1, k =>
    let k := skipIndent indent k
    if isBreak k.peek then
      let (b, k) := k.lineBreak
      let (more, k) := blockBreaks indent fuel k
      (b ++ more, k)
    else ([], k)

/-- The line ends of blank lines, the greatest column reached in them, and the place after the
spaces of the next line. -/
def firstBreaks : Nat → Nat → Cursor → List Char × Nat × Cursor
  | 0, widest, k => ([], widest, k)
  | fuel + 1, widest, k =>
    let k := k.skipSpaces
    let widest := max widest k.column
    if isBreak k.peek then
      let (b, k) := k.lineBreak
      let (more, widest, k) := firstBreaks fuel widest k
      (b ++ more, widest, k)
    else ([], widest, k)

/-- The lines of a block from the column `indent` on, with the line ends before them. In a folded
block a line end between two lines that do not start with a blank becomes a space. -/
def blockLines (fold : Bool) (indent : Nat) (chomping : Chomping) :
    Nat → List Char → Cursor → List Char × Cursor
  | 0, _, k => ([], k)
  | fuel + 1, breaks, k =>
    let isBlank (c : Char) : Bool := c == ' ' || c == '\t'
    let first := k.peek
    let line := k.run (fun c => !isBreak c)
    let (b, k) := (k.skip line.length).lineBreak
    let (more, k) := blockBreaks indent (k.rest.length + 1) k
    if k.column == indent && !k.rest.isEmpty then
      let between :=
        if fold && b == ['\n'] && !isBlank first && !isBlank k.peek then
          if more.isEmpty then [' '] else []
        else b
      let (others, k) := blockLines fold indent chomping fuel more k
      (breaks ++ line ++ between ++ others, k)
    else
      let ending :=
        match chomping with
        | .strip => []
        | .clip => b
        | .keep => b ++ more
      (breaks ++ line ++ ending, k)

/-- The block at the cursor, which stands behind the sign of its kind. -/
def blockText (fold : Bool) (margin : Nat) (k : Cursor) : Except Problem (List Char × Cursor) := do
  let (header, k) ← blockHeader k
  let least := max 1 margin
  let (breaks, indent, k) :=
    match header.indentation with
    | none =>
      let (breaks, widest, k) := firstBreaks (k.rest.length + 1) 0 k
      (breaks, max least widest, k)
    | some n =>
      let indent := least + n - 1
      let (breaks, k) := blockBreaks indent (k.rest.length + 1) k
      (breaks, indent, k)
  if k.column == indent && !k.rest.isEmpty then
    .ok (blockLines fold indent header.chomping (k.rest.length + 1) breaks k)
  else .ok (if header.chomping == .keep then breaks else [], k)

end RamlDocs.Yaml
