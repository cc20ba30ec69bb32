import RamlDocs.Markdown.Element

/-!
# HTML blocks

Text is made ready for reading: tabs give way to spaces, lines of spaces are emptied, and blocks of
HTML are set aside. A block starts with a tag of its own line and ends with the tag that closes it.
A marker on a line of its own keeps its place; the characters around the number of a marker are
taken out of the text beforehand, so that no text looks like a marker.
-/

namespace RamlDocs.Markdown.RawHtml

/-- The character before the number of a marker. -/
def markStart : Char := '\x02'

/-- The character behind the number of a marker. -/
def markEnd : Char := '\x03'

/-! ## Lines -/

/-- Text with spaces up to the next fourth column for each tab. -/
def expandTabs (column : Nat) : List Char → List Char
  | [] => []
  | c :: cs =>
    if c == '\t' then
      let width := 4 - column % 4
      List.replicate width ' ' ++ expandTabs (column + width) cs
    else if c == '\n' then c :: expandTabs 0 cs
    else c :: expandTabs (column + 1) cs

/-- Text with the lines of nothing but spaces emptied, the first one excepted. -/
def emptyLines (cs : List Char) : List Char :=
  match Text.splitWhere (· == '\n') cs with
  | [] => []
  | first :: lines =>
    List.intercalate ['\n']
      (first :: lines.map fun line => if line.all (· == ' ') then [] else line)

/-- Text with a line feed for each line end. -/
def unifyEnds : List Char → List Char
  | [] => []
  | '\r' :: '\n' :: cs => '\n' :: unifyEnds cs
  | '\r' :: cs => '\n' :: unifyEnds cs
  | c :: cs => c :: unifyEnds cs

/-- Text made ready for reading; two line ends come behind it. -/
def normalise (cs : List Char) : List Char :=
  let cs := cs.filter fun c => c != markStart && c != markEnd
  emptyLines (expandTabs 0 (unifyEnds cs ++ ['\n', '\n']))

/-! ## Tags -/

/-- A tag in a text. -/
inductive Tag where
  | opening (name : String)
  | closing (name : String)
  /-- A tag without content. -/
  | single (name : String)
  | comment

/-- The end of an opening tag behind its name, and whether the tag closes itself. Brackets between
quotes do not count. -/
def openingEnd (quote : Option Char) (last : Char) : List Char → Option (Bool × List Char)
  | [] => none
  | c :: cs =>
    match quote with
    | some q => if c == q then openingEnd none c cs else openingEnd quote c cs
    | none =>
      if c == '>' then some (last == '/', cs)
      else if c == '\x60' then none
      else if (c == '\x27' || c == '\x22') && last == '=' then openingEnd (some c) c cs
      else openingEnd none c cs

/-- The end of a comment behind its start. -/
def commentEnd : List Char → Option (List Char)
  | [] => none
  | c :: cs =>
    if "-->".toList.isPrefixOf (c :: cs) then some (cs.drop 2) else commentEnd cs

/-- The tag at the start of a text, and what follows it. -/
def tag? (cs : List Char) : Option (Tag × List Char) :=
  let nameOf (cs : List Char) : List Char :=
    cs.takeWhile fun c => !(Text.isBlank c || c == '/' || c == '>' || c == '\x60')
  match cs with
  | '<' :: '/' :: rest =>
    let name := nameOf rest
    match rest.dropWhile (· != '>') with
    | _ :: rest =>
      if (name.head?).any Char.isAlpha then
        some (.closing (String.ofList (Text.lower name)), rest)
      else none
    | [] => none
  | '<' :: '!' :: '-' :: '-' :: rest => (commentEnd rest).map fun rest => (.comment, rest)
  | '<' :: rest =>
    let name := nameOf rest
    let tag := String.ofList (Text.lower name)
    if (name.head?).any Char.isAlpha then
      (openingEnd none ' ' (rest.drop name.length)).map fun (single, rest) =>
        (if single || tag == "hr" then .single tag else .opening tag, rest)
    else none
  | _ => none

/-- The number of a character behind its ampersand and number sign, where a semicolon is missing
behind it, and what follows. -/
def openNumber? (cs : List Char) : Option (List Char × List Char) :=
  let isHex (c : Char) : Bool :=
    c.isDigit || ('a' ≤ c && c ≤ 'f') || ('A' ≤ c && c ≤ 'F')
  let found (sign digits : List Char) (rest : List Char) : Option (List Char × List Char) :=
    if digits.isEmpty then none
    else
      match rest with
      | [] => none
      | c :: _ => if c == ';' || isHex c then none else some (sign ++ digits, rest)
  match cs with
  | '&' :: '#' :: x :: rest =>
    if x == 'x' || x == 'X' then
      found [x] (rest.takeWhile isHex) (rest.dropWhile isHex)
    else found [] ((x :: rest).takeWhile Char.isDigit) ((x :: rest).dropWhile Char.isDigit)
  | _ => none

/-! ## Blocks -/

/-- A text on the way: what is read, last character first, the blocks set aside, last one first, the
block that is open, last character first, the names of its open tags, and whether a block ended on
this line. -/
structure Scan where
  read : List Char
  blocks : List (List Char)
  block : List Char
  names : List String
  isOpen : Bool
  inTail : Bool

namespace Scan

/-- Characters added to the text or to the open block. -/
def add (s : Scan) (cs : List Char) : Scan :=
  if s.isOpen then { s with block := cs.reverse ++ s.block }
  else { s with read := cs.reverse ++ s.read }

/-- A block set aside, with a marker and an empty line in its place. -/
def setAside (s : Scan) (block : List Char) : Scan :=
  let marker := markStart :: Nat.toDigits 10 s.blocks.length ++ [markEnd, '\n', '\n']
  { s with read := marker.reverse ++ s.read, blocks := block :: s.blocks }

/-- Whether an empty line follows. -/
def emptyLineFollows (rest : List Char) : Bool :=
  match rest.dropWhile (· == ' ') with
  | '\n' :: rest => (rest.dropWhile (· == ' ')).head? == some '\n'
  | _ => false

/-- A tag without content or a comment, with the text that follows it. -/
def single (s : Scan) (atStart isBlock : Bool) (text rest : List Char) : Scan :=
  if s.isOpen || s.inTail then { s with block := text.reverse ++ s.block }
  else if atStart && isBlock then
    let ends := emptyLineFollows rest
    let s := { s with inTail := !ends }
    let s := match s.read with
      | '\n' :: '\n' :: _ => s
      | '\n' :: _ => { s with read := '\n' :: s.read }
      | _ => s
    s.setAside (if ends then text ++ ['\n'] else text)
  else { s with read := text.reverse ++ s.read }

/-- An opening tag. -/
def opening (s : Scan) (atStart : Bool) (name : String) (text : List Char) : Scan :=
  let s :=
    if isBlockTag name && !s.isOpen && (s.inTail || atStart) then
      { s with isOpen := true, read := '\n' :: s.read }
    else s
  let s := s.add text
  if s.isOpen then { s with names := name :: s.names } else s

/-- A closing tag, with the text that follows it. The block ends when no tag is open. -/
def closing (s : Scan) (name : String) (text rest : List Char) : Scan :=
  let s := s.add text
  if s.isOpen then
    let names :=
      if s.names.contains name then (s.names.dropWhile (· != name)).drop 1 else s.names
    if names.isEmpty then
      let ends := emptyLineFollows rest
      let block := s.block.reverse ++ (if ends then ['\n'] else [])
      let s := { s with block := [], names := [], isOpen := false, inTail := s.inTail || !ends }
      s.setAside block
    else { s with names }
  else s

end Scan

/-- Whether at most three spaces stand between the start of a line and the place behind them, given
what is before the place, last character first. -/
def atLineStart (line : List Char) : Bool :=
  line.length ≤ 3 && line.all Text.isBlank

/-- The text and the blocks after the characters from a place on. `line` is the line before the
place, last character first. -/
def scan : Nat → List Char → Scan → List Char → Scan
  | 0, _, s, cs => s.add cs
  | _ + 1, _, s, [] => s
  | fuel + 1, line, s, c :: cs =>
    match if c == '<' then tag? (c :: cs) else none with
    | some (tag, rest) =>
      let text := (c :: cs).take (cs.length + 1 - rest.length)
      let start := atLineStart line
      let s :=
        match tag with
        | .opening name => s.opening start name text
        | .closing name => s.closing name text rest
        | .single name => s.single start (isBlockTag name) text rest
        | .comment => s.single start true text rest
      let line := (text.reverse ++ line).takeWhile (· != '\n')
      scan fuel line s rest
    | none =>
      match if c == '&' then openNumber? (c :: cs) else none with
      | some (number, rest) =>
        let text := '&' :: '#' :: number ++ [';']
        scan fuel (text.reverse ++ line) (s.add text) rest
      | none =>
        let s := if c == '\n' then { s with inTail := false } else s
        scan fuel (if c == '\n' then [] else c :: line) (s.add [c]) cs

/-- The text with markers for its blocks of HTML, and the blocks. -/
def extract (cs : List Char) : List Char × List (List Char) :=
  let s := scan (cs.length + 1) [] ⟨[], [], [], [], false, false⟩ cs
  let s := if s.block.isEmpty then s else s.setAside s.block.reverse
  (s.read.reverse, s.blocks.reverse)

/-! ## Markers -/

/-- Symbols with blocks of HTML in the place of their markers. `number` is the part of the number of
a marker that is read. -/
def restore (blocks : List (List Char)) (number : Option Nat) : List Symbol → List Symbol
  | [] => []
  | s :: ss =>
    match s.char?, number with
    | some c, none =>
      if c == markStart then restore blocks (some 0) ss else s :: restore blocks none ss
    | some c, some n =>
      if c == markEnd then .html ((blocks[n]?).getD []) :: restore blocks none ss
      else restore blocks (some (n * 10 + (c.toNat - 48))) ss
    | none, _ => s :: restore blocks none ss

mutual

/-- A tree with blocks of HTML in the place of their markers. -/
def restoreAll (blocks : List (List Char)) : Element → Element
  | .mk tag attributes text fixed children =>
    .mk tag attributes (restore blocks none text) fixed (restoreChildren blocks children)

/-- Children with blocks of HTML in the place of their markers. -/
def restoreChildren (blocks : List (List Char)) :
    List (Element × List Symbol) → List (Element × List Symbol)
  | [] => []
  | (e, tail) :: rest =>
    (restoreAll blocks e, restore blocks none tail) :: restoreChildren blocks rest

end

end RamlDocs.Markdown.RawHtml
