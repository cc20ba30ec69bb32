import RamlDocs.Text.Utf8
import RamlDocs.Yaml.ScalarText

/-!
# Tokens

What a text is made of above its characters: scalars, the names that mark nodes, the brackets of
collections, and directives. The structure that only indentation shows has tokens of its own. This
module holds the type and the reading of names; `Yaml.Layout` finds the tokens of a text.
-/

namespace RamlDocs.Yaml

/-- A line before a document that says how to read it. -/
inductive Directive where
  | version (major minor : Nat)
  | shorthand (handle start : String)
  | other
  deriving DecidableEq, Repr

/-- One token. -/
inductive Token where
  | directive (d : Directive)
  | documentStart
  | documentEnd
  | textEnd
  | openBlockList
  | openBlockMap
  | closeBlock
  | openList
  | closeList
  | openMap
  | closeMap
  | key
  | value
  | item
  | comma
  | reference (name : String)
  | anchor (name : String)
  /-- The tag of a node; without a handle it is written out in full. -/
  | tag (handle : Option String) (suffix : String)
  | scalar (text : String) (plain : Bool)
  deriving DecidableEq, Repr

/-! ## Anchors -/

/-- The name of an anchor, or of a reference to one, at the cursor, which stands at its sign. -/
def anchorName (k : Cursor) : Except Problem (String × Cursor) :=
  let k := k.next
  let name := k.run isNameChar
  let k := k.skip name.length
  if name.isEmpty then .error .malformed
  else if isGap k.peek || ['?', ':', ',', ']', '}', '%', '@', '\x60'].contains k.peek then
    .ok (String.ofList name, k)
  else .error .malformed

/-! ## Tags -/

/-- Characters that tags and their shorthands are written with. -/
def isTagChar (c : Char) : Bool :=
  c.isAlphanum || "-;/?:@&=+$,_.!~*\x27()[]%".toList.contains c

/-- A run of escaped bytes, which is one text. -/
def escapedBytes : List Char → Except Problem (List Nat × List Char)
  | '%' :: a :: b :: rest =>
    match hexNumber? [a, b] with
    | some n => (escapedBytes rest).map fun r => (n :: r.1, r.2)
    | none => .error .malformed
  | '%' :: _ => .error .malformed
  | rest => .ok ([], rest)

/-- A tag with its escapes replaced. -/
def unescapeTag : Nat → List Char → Except Problem (List Char)
  | 0, cs => .ok cs
  | _ + 1, [] => .ok []
  | fuel + 1, c :: cs =>
    if c == '%' then do
      let (bytes, rest) ← escapedBytes (c :: cs)
      match Utf8.decode bytes with
      | .ok s => (unescapeTag fuel rest).map (s.toList ++ ·)
      | .error _ => .error .malformed
    else (unescapeTag fuel cs).map (c :: ·)

/-- The tag, or the end of a tag, at the cursor. -/
def tagText (k : Cursor) : Except Problem (String × Cursor) :=
  let text := k.run isTagChar
  if text.isEmpty then .error .malformed
  else (unescapeTag text.length text).map fun cs => (String.ofList cs, k.skip text.length)

/-- The handle of a tag at the cursor: one exclamation mark, or a name between two. -/
def tagHandle (k : Cursor) : Except Problem (String × Cursor) :=
  if k.peek != '!' then .error .malformed
  else if k.ahead 1 == ' ' then .ok ("!", k.next)
  else
    let name := k.next.run isNameChar
    let k := k.next.skip name.length
    if k.peek == '!' then .ok (String.ofList ('!' :: name ++ ['!']), k.next)
    else .error .malformed

/-- The tag token at the cursor, which stands at the exclamation mark. -/
def tagToken (k : Cursor) : Except Problem (Token × Cursor) := do
  let (token, k) ←
    if k.ahead 1 == '<' then do
      let (text, k) ← tagText (k.skip 2)
      if k.peek == '>' then pure (Token.tag none text, k.next) else .error .malformed
    else if isGap (k.ahead 1) then pure (Token.tag none "!", k.next)
    else if (k.next.run fun c => !isSpaceOrOver c).contains '!' then do
      let (handle, k) ← tagHandle k
      let (text, k) ← tagText k
      pure (Token.tag (some handle) text, k)
    else do
      let (text, k) ← tagText k.next
      pure (Token.tag (some "!") text, k)
  if isSpaceOrOver k.peek then .ok (token, k) else .error .malformed

/-! ## Directives -/

/-- A number at the cursor. -/
def versionNumber (k : Cursor) : Except Problem (Nat × Cursor) :=
  let digits := k.run Char.isDigit
  if digits.isEmpty then .error .malformed
  else .ok (digits.foldl (fun n c => n * 10 + (c.toNat - 48)) 0, k.skip digits.length)

/-- The directive at the cursor, which stands at the percent sign, and the rest of its line. -/
def directiveToken (k : Cursor) : Except Problem (Token × Cursor) := do
  let name := k.next.run isNameChar
  let k := k.next.skip name.length
  if name.isEmpty || !isSpaceOrOver k.peek then .error .malformed
  let (directive, k) ←
    if name == ['Y', 'A', 'M', 'L'] then do
      let (major, k) ← versionNumber k.skipSpaces
      if k.peek != '.' then .error .malformed
      let (minor, k) ← versionNumber k.next
      if !isSpaceOrOver k.peek then .error .malformed
      pure (Directive.version major minor, k)
    else if name == ['T', 'A', 'G'] then do
      let (handle, k) ← tagHandle k.skipSpaces
      if k.peek != ' ' then .error .malformed
      let (start, k) ← tagText k.skipSpaces
      if !isSpaceOrOver k.peek then .error .malformed
      pure (Directive.shorthand handle start, k)
    else pure (Directive.other, k.skipLine)
  (restOfLine k).map fun k => (Token.directive directive, k)

end RamlDocs.Yaml
