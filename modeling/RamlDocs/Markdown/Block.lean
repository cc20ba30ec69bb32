import RamlDocs.Markdown.Element
import RamlDocs.Text.Digit

/-!
# Blocks

A text falls into blocks at blank lines, and blocks are read as headings, lists, quotes, code, rules
or paragraphs. `Block.parse` builds the tree of a text and collects the link targets that it
defines. What stands inside a line is not looked at here.
-/

namespace RamlDocs.Markdown

/-- A named target of links. -/
structure Target where
  address : List Char
  title : Option (List Char)

/-- Targets by their names, those defined last first. -/
abbrev Targets := List (List Char × Target)

/-- What kind of text a block is part of. -/
inductive Mode where
  | tightItem
  | looseItem
  | indented
  | quoted
  deriving DecidableEq, Repr

namespace Block

/-- How far a block is set in to be code or to belong to a list item. -/
def indent : Nat := 4

/-- Whether `cs` starts with `n` spaces. -/
def isIndented (n : Nat) (cs : List Char) : Bool := (List.replicate n ' ').isPrefixOf cs

/-- The lines of a text. -/
def linesOf (cs : List Char) : List (List Char) := Text.splitWhere (· == '\n') cs

/-- Lines as one text. -/
def joinLines (lines : List (List Char)) : List Char := List.intercalate ['\n'] lines

/-- The pieces between pairs of line ends. -/
def splitBlank (piece : List Char) : List Char → List (List Char)
  | '\n' :: '\n' :: cs => piece.reverse :: splitBlank [] cs
  | c :: cs => splitBlank (c :: piece) cs
  | [] => [piece.reverse]

/-- The blocks of a text. -/
def blocksOf (cs : List Char) : List (List Char) := splitBlank [] cs

/-- Spaces at the start, at most `n` of them, dropped. -/
def dropSpaces : Nat → List Char → List Char
  | n + 1, ' ' :: cs => dropSpaces n cs
  | _, cs => cs

/-- Lines set in by `n` spaces moved out; the first other line that is not blank ends them. The
rest is left as it is. -/
def moveOut : List (List Char) → List (List Char) × List (List Char)
  | [] => ([], [])
  | line :: lines =>
    if isIndented indent line then
      let (moved, rest) := moveOut lines
      (line.drop indent :: moved, rest)
    else if line.all Text.isBlank then
      let (moved, rest) := moveOut lines
      ([] :: moved, rest)
    else ([], line :: lines)

/-- All lines that are set in by `level` steps moved out. -/
def moveOutLoosely (level : Nat) (cs : List Char) : List Char :=
  let n := indent * level
  joinLines ((linesOf cs).map fun line => if isIndented n line then line.drop n else line)

/-- Code with the characters that HTML needs for itself replaced. -/
def codeText (cs : List Char) : List Char :=
  cs.flatMap fun c =>
    if c == '&' then "&amp;".toList
    else if c == '<' then "&lt;".toList
    else if c == '>' then "&gt;".toList
    else [c]

/-! ## Code -/

/-- Whether an element is a block of code. -/
def isCode (e : Element) : Bool := e.tag == "pre" && e.endsWith ["code"]

/-- Code added to the block of code that an element ends with. -/
def extendCode (text : List Char) (parent : Element) : Element :=
  parent.mapLast fun pre => pre.mapLast fun code => code.withText (code.text ++ Symbol.ofChars text)

/-- A block of code put at the end of an element; it continues one that is there. -/
def putCode (parent : Element) (lines : List (List Char)) : Element :=
  let text := codeText (Text.trimRight (joinLines lines))
  if (parent.last?).any isCode then extendCode ('\n' :: text ++ ['\n']) parent
  else
    let code : Element := .mk "code" [] (Symbol.ofChars (text ++ ['\n'])) true []
    parent.push ((Element.blank "pre").push code)

/-! ## Headings and rules -/

/-- A heading behind its number signs: the characters up to a line end, closing number signs aside.
A backslash at the end of the line is no heading. -/
def headingText : List Char → Option (List Char × List Char)
  | [] => some ([], [])
  | c :: cs =>
    match (c :: cs).dropWhile (· == '#') with
    | [] => some ([], [])
    | '\n' :: rest => some ([], rest)
    | _ =>
      if c == '\\' then
        match cs with
        | d :: ds =>
          if d == '\n' then none else (headingText ds).map fun r => (c :: d :: r.1, r.2)
        | [] => none
      else (headingText cs).map fun r => (c :: r.1, r.2)

/-- A heading at the start of a line: its level, its text, and what comes after its line. -/
def heading? (cs : List Char) : Option (Nat × List Char × List Char) :=
  let level := min 6 (cs.takeWhile (· == '#')).length
  if level == 0 then none else (headingText (cs.drop level)).map fun r => (level, r.1, r.2)

/-- The first heading of a block, with what comes before it. -/
def findHeading (before : List Char) : List Char → Option (List Char × Nat × List Char × List Char)
  | [] => none
  | c :: cs =>
    if c == '\n' then
      match heading? cs with
      | some h => some (before.reverse, h)
      | none => findHeading (c :: before) cs
    else findHeading (c :: before) cs

/-- The first heading of a block, which may be its first line. -/
def headingIn? (cs : List Char) : Option (List Char × Nat × List Char × List Char) :=
  match heading? cs with
  | some h => some ([], h)
  | none => findHeading [] cs

/-- Whether a line underlines a heading: it has one of two signs all along. -/
def isUnderline (line : List Char) : Bool :=
  ['=', '-'].any fun sign => line.head? == some sign && (line.dropWhile (· == sign)).all (· == ' ')

/-- Whether a line is the given sign three times or more, with at most two spaces between. -/
def isRuleOf (sign : Char) (gap count : Nat) : List Char → Bool
  | [] => 3 ≤ count
  | c :: cs =>
    if c == sign then isRuleOf sign 0 (count + 1) cs
    else if c == ' ' then
      if 2 ≤ gap then 3 ≤ count && cs.all (· == ' ') else isRuleOf sign (gap + 1) count cs
    else false

/-- Whether a line is a rule across the page. -/
def isRule (line : List Char) : Bool :=
  match dropSpaces 3 line with
  | c :: cs => (c == '-' || c == '_' || c == '*') && isRuleOf c 0 1 cs
  | [] => false

/-- The lines before and after the first one that satisfies `p`. -/
def splitAtLine (p : List Char → Bool) (lines : List (List Char)) :
    Option (List (List Char) × List Char × List (List Char)) :=
  match lines.dropWhile (fun l => !p l) with
  | line :: rest => some (lines.takeWhile (fun l => !p l), line, rest)
  | [] => none

/-! ## Lists -/

/-- The mark of an item of a list with bullets, dropped. -/
def dropBullet : List Char → Option (List Char)
  | c :: cs => if c == '*' || c == '+' || c == '-' then some cs else none
  | [] => none

/-- The mark of an item of a numbered list, dropped. -/
def dropNumber (cs : List Char) : Option (List Char) :=
  let isDigit (c : Char) : Bool := (Text.digitValue? c).isSome
  match cs.dropWhile isDigit with
  | '.' :: rest => if (cs.head?).any isDigit then some rest else none
  | _ => none

/-- The text behind the mark of an item and at least one space. -/
def afterMark (mark : List Char → Option (List Char)) (cs : List Char) : Option (List Char) :=
  match mark cs with
  | some (' ' :: rest) => some (rest.dropWhile (· == ' '))
  | _ => none

/-- The mark of an item of either kind, dropped. -/
def dropMark (cs : List Char) : Option (List Char) := (dropNumber cs).orElse fun _ => dropBullet cs

/-- The text of an item whose mark starts the line. -/
def item? (mark : List Char → Option (List Char)) (line : List Char) : Option (List Char) :=
  afterMark mark (dropSpaces 3 line)

/-- Whether a line is an item of an inner list. -/
def isInnerItem (line : List Char) : Bool :=
  isIndented indent line && (afterMark dropMark (dropSpaces 3 (line.drop indent))).isSome

/-- A line added to the last text of a list. -/
def extendLast (line : List Char) (items : List (List Char)) : List (List Char) :=
  match items.getLast? with
  | none => [line]
  | some last => items.dropLast ++ [last ++ '\n' :: line]

/-- The items of a block that is a list. Items of inner lists stay together. -/
def itemsOf (block : List Char) : List (List Char) :=
  (linesOf block).foldl
    (fun items line =>
      match item? dropMark line with
      | some text => items ++ [text]
      | none =>
        if isInnerItem line && !(items.getLast?).any (isIndented indent) then items ++ [line]
        else extendLast line items)
    []

/-- The tag of the list that a block is, if it is one. -/
def listTag? (block : List Char) : Option String :=
  let line := block.takeWhile (· != '\n')
  if (item? dropNumber line).isSome then some "ol"
  else if (item? dropBullet line).isSome then some "ul"
  else none

def listTags : List String := ["ul", "ol"]

/-! ## Quotes -/

/-- The text of a quoted line. -/
def quoted? (line : List Char) : Option (List Char) :=
  match dropSpaces 3 line with
  | '>' :: ' ' :: text => some text
  | '>' :: text => some text
  | _ => none

/-- A line of a quote without its mark. Lines without one are taken along. -/
def unquote (line : List Char) : List Char :=
  if Text.trim line == ['>'] then [] else (quoted? line).getD line

/-! ## Link targets -/

/-- The title at the start of a text, up to the end of the line: between equal quotes or
brackets. -/
def title? (cs : List Char) : Option (List Char × List Char) :=
  let line := cs.takeWhile (· != '\n')
  let rest := cs.drop line.length
  let line := Text.dropRightWhile (· == ' ') line
  match line.head?, line.getLast? with
  | some first, some last =>
    let closes := (first == '\x22' && last == '\x22') || (first == '\x27' && last == '\x27') ||
      (first == '(' && last == ')')
    if closes && 2 ≤ line.length then some ((line.drop 1).dropLast, rest) else none
  | _, _ => none

/-- Whether a text has reached the end of a line. -/
def isLineEnd (cs : List Char) : Bool := cs.isEmpty || cs.head? == some '\n'

/-- What follows the address of a link target: a title on the same or on the next line, or
nothing. -/
def afterAddress (cs : List Char) : Option (Option (List Char) × List Char) :=
  let here := cs.dropWhile (· == ' ')
  let titled (cs : List Char) : Option (Option (List Char) × List Char) :=
    (title? cs).map fun r => (some r.1, r.2)
  let ended (cs : List Char) : Option (Option (List Char) × List Char) :=
    if isLineEnd cs then some (none, cs) else none
  let below :=
    match here with
    | '\n' :: rest =>
      let rest := rest.dropWhile (· == ' ')
      (titled rest).orElse fun _ => ended rest
    | _ => none
  (below.orElse fun _ => titled here).orElse fun _ => ended here

/-- The address of a link target, as long as what follows allows, with what follows. -/
def address? (run : List Char) (rest : List Char) :
    Nat → Option (List Char × Option (List Char) × List Char)
  | 0 => none
  | n + 1 =>
    match afterAddress (run.drop (n + 1) ++ rest) with
    | some r => some (run.take (n + 1), r)
    | none => address? run rest n

/-- The definition of a link target at the start of a line, with what comes after it. -/
def target? (cs : List Char) : Option ((List Char × Target) × List Char) :=
  match dropSpaces 3 cs with
  | '[' :: inner =>
    let name := inner.takeWhile fun c => c != '[' && c != ']'
    match inner.drop name.length with
    | ']' :: ':' :: more =>
      let more := more.dropWhile (· == ' ')
      let more :=
        match more with
        | '\n' :: below => below.dropWhile (· == ' ')
        | _ => more
      let run := more.takeWhile fun c => !Text.isBlank c
      (address? run (more.drop run.length) run.length).map fun (address, title, rest) =>
        let address := Text.dropRightWhile (· == '>') (address.dropWhile (· == '<'))
        let title := title.filter (!·.isEmpty)
        ((Text.lower (Text.trim name), ⟨address, title⟩), rest)
    | _ => none
  | _ => none

/-- The first definition of a link target in a block, with what comes before and after it. -/
def findTarget (before : List Char) (cs : List Char) :
    Option (List Char × (List Char × Target) × List Char) :=
  match cs with
  | [] => none
  | c :: rest =>
    if c == '\n' then
      match target? rest with
      | some r => some ((c :: before).reverse, r)
      | none => findTarget (c :: before) rest
    else findTarget (c :: before) rest

/-- The first definition of a link target in a block, which may be its first line. -/
def targetIn? (cs : List Char) : Option (List Char × (List Char × Target) × List Char) :=
  match target? cs with
  | some r => some ([], r)
  | none => findTarget [] cs

/-! ## The tree -/

/-- A paragraph at the end of an element. In a tight list item the text gets no element of its
own. -/
def putParagraph (modes : List Mode) (block : List Char) (parent : Element) : Element :=
  if block.all Text.isBlank then parent
  else if modes.head? == some .tightItem then
    match parent.children.getLast? with
    | some (c, tail) =>
      parent.withChildren
        (parent.children.dropLast ++ [(c, tail ++ Symbol.ofChars ('\n' :: block))])
    | none =>
      let text := Symbol.ofChars (Text.trimLeft block)
      parent.withText (if parent.text.isEmpty then text else parent.text ++ .char '\n' :: text)
  else parent.push (.ofText "p" (Symbol.ofChars (Text.trimLeft block)))

/-- How deep a block that is set in by `wanted` steps belongs below an element: the number of
steps that lists account for, and the number of last children to go down. -/
def levelBelow (wanted : Nat) : Nat → Nat → Element → Nat × Nat
  | 0, level, _ => (level, 0)
  | fuel + 1, level, e =>
    if level < wanted then
      match e.last? with
      | some c =>
        if listTags.contains c.tag then
          let (level, depth) := levelBelow wanted fuel (level + 1) c
          (level, depth + 1)
        else if c.tag == "li" then
          let (level, depth) := levelBelow wanted fuel level c
          (level, depth + 1)
        else (level, 0)
      | none => (level, 0)
    else (level, 0)

/-- An element with what is `depth` last children down changed, and what the change yields. -/
def changeBelow {α : Type} (f : Element → Element × α) : Nat → Element → Element × α
  | 0, e => f e
  | depth + 1, e =>
    match e.children.getLast? with
    | some (c, tail) =>
      let (c, a) := changeBelow f depth c
      (e.withChildren (e.children.dropLast ++ [(c, tail)]), a)
    | none => f e

/-- `f` on the last child, and what it yields; a last child is needed. -/
def changeLast {α : Type} (f : Element → Element × α) (e : Element) (otherwise : α) : Element × α :=
  match e.children.getLast? with
  | some (c, tail) =>
    let (c, a) := f c
    (e.withChildren (e.children.dropLast ++ [(c, tail)]), a)
  | none => (e, otherwise)

/-- A new last child that `f` fills. -/
def pushWith {α : Type} (f : Element → Element × α) (tag : String) (e : Element) : Element × α :=
  let (c, a) := f (.blank tag)
  (e.push c, a)

/-- Whether a block is set in and belongs to an item of a list. -/
def continuesItem (modes : List Mode) (parent : Element) (block : List Char) : Bool :=
  isIndented indent block && modes.head? != some .indented &&
    (parent.tag == "li" || parent.endsWith listTags)

/-- Blocks put at the end of an element, with the link targets known so far. Every step shortens
the blocks, which bounds `fuel`. -/
def put : Nat → List Mode → Targets → Element → List (List Char) → Element × Targets
  | 0, _, targets, parent, _ => (parent, targets)
  | _ + 1, _, targets, parent, [] => (parent, targets)
  | fuel + 1, modes, targets, parent, block :: blocks =>
    let again := put fuel modes
    if block.isEmpty || block.head? == some '\n' then
      let filler := if block.isEmpty then ['\n', '\n'] else ['\n']
      let rest := block.drop 1
      let parent := if (parent.last?).any isCode then extendCode filler parent else parent
      again targets parent (if rest.isEmpty then blocks else rest :: blocks)
    else if continuesItem modes parent block then
      let wanted := (block.takeWhile (· == ' ')).length / indent
      let level := if modes.head? == some .tightItem then 1 else 0
      let (level, depth) := levelBelow wanted (2 * wanted + 2) level parent
      let text := moveOutLoosely level block
      let inside (e : Element) (blocks : List (List Char)) : Element × Targets :=
        put fuel (.indented :: modes) targets e blocks
      let (parent, targets) :=
        if parent.tag == "li" then
          if parent.endsWith listTags then changeLast (inside · [text]) parent targets
          else inside parent [text]
        else
          changeBelow
            (fun e =>
              if e.tag == "li" then inside e [text]
              else if e.endsWith ["li"] then
                changeLast (fun li => inside li.wrapText (blocksOf text)) e targets
              else pushWith (inside · [text]) "li" e)
            depth parent
      again targets parent blocks
    else if isIndented indent block then
      let (code, rest) := moveOut (linesOf block)
      let parent := putCode parent code
      again targets parent (if rest.isEmpty then blocks else joinLines rest :: blocks)
    else
      match headingIn? block with
      | some (before, level, text, after) =>
        let (parent, targets) :=
          if before.isEmpty then (parent, targets) else put fuel modes targets parent [before]
        let heading := Element.ofText ("h" ++ toString level) (Symbol.ofChars (Text.trim text))
        let after := if modes.head? == some .looseItem then moveOutLoosely 1 after else after
        again targets (parent.push heading) (if after.isEmpty then blocks else after :: blocks)
      | none =>
        let lines := linesOf block
        match lines with
        | title :: underline :: rest =>
          if isUnderline underline then
            let tag := if underline.head? == some '=' then "h1" else "h2"
            let heading := Element.ofText tag (Symbol.ofChars (Text.trim title))
            again targets (parent.push heading)
              (if rest.isEmpty then blocks else joinLines rest :: blocks)
          else putLines fuel modes targets parent block lines blocks
        | _ => putLines fuel modes targets parent block lines blocks
where
  /-- A block that is neither code nor starts with a heading, and the blocks after it. -/
  putLines : Nat → List Mode → Targets → Element → List Char → List (List Char) →
      List (List Char) → Element × Targets
    | 0, _, targets, parent, _, _, _ => (parent, targets)
    | fuel + 1, modes, targets, parent, block, lines, blocks =>
      match splitAtLine isRule lines with
      | some (above, _, below) =>
        let above := Text.dropRightWhile (· == '\n') (joinLines above)
        let (parent, targets) :=
          if above.isEmpty then (parent, targets) else put fuel modes targets parent [above]
        let below := (joinLines below).dropWhile (· == '\n')
        put fuel modes targets (parent.push (.blank "hr"))
          (if below.isEmpty then blocks else below :: blocks)
      | none =>
        match listTag? block with
        | some tag =>
          let (parent, targets) := putList fuel modes targets parent tag (itemsOf block)
          put fuel modes targets parent blocks
        | none =>
          match splitAtLine (fun line => (quoted? line).isSome) lines with
          | some (above, line, below) =>
            let (parent, targets) := put fuel modes targets parent [joinLines above]
            let text := joinLines ((line :: below).map unquote)
            let text := if above.isEmpty then text else '\n' :: text
            let fill (e : Element) : Element × Targets :=
              put fuel (.quoted :: modes) targets e (blocksOf text)
            let (parent, targets) :=
              if parent.endsWith ["blockquote"] then changeLast fill parent targets
              else pushWith fill "blockquote" parent
            put fuel modes targets parent blocks
          | none =>
            match targetIn? block with
            | some (before, target, after) =>
              let blocks :=
                if after.all Text.isBlank then blocks
                else after.dropWhile (· == '\n') :: blocks
              let blocks :=
                if before.all Text.isBlank then blocks
                else Text.dropRightWhile (· == '\n') before :: blocks
              put fuel modes (target :: targets) parent blocks
            | none => put fuel modes targets (putParagraph modes block parent) blocks
  /-- The items of a list put into the list that an element ends with, or into a new one. A list
  that goes on after a blank line gets paragraphs for its items there. -/
  putList : Nat → List Mode → Targets → Element → String → List (List Char) → Element × Targets
    | 0, _, targets, parent, _, _ => (parent, targets)
    | fuel + 1, modes, targets, parent, tag, items =>
      if parent.endsWith listTags then
        changeLast
          (fun list =>
            let list := list.mapLast fun li => li.wrapText.wrapTail
            match items with
            | first :: items =>
              let (list, targets) :=
                pushWith (put fuel (.looseItem :: modes) targets · [first]) "li" list
              putItems fuel (.tightItem :: modes) targets list items
            | [] => (list, targets))
          parent targets
      else if listTags.contains parent.tag then
        putItems fuel (.tightItem :: modes) targets parent items
      else pushWith (putItems fuel (.tightItem :: modes) targets · items) tag parent
  /-- Items put into a list one by one; an item of an inner list goes into the item before it. -/
  putItems : Nat → List Mode → Targets → Element → List (List Char) → Element × Targets
    | 0, _, targets, list, _ => (list, targets)
    | _ + 1, _, targets, list, [] => (list, targets)
    | fuel + 1, modes, targets, list, item :: items =>
      let (list, targets) :=
        if isIndented indent item then
          changeLast (put fuel modes targets · [item]) list targets
        else pushWith (put fuel modes targets · [item]) "li" list
      putItems fuel modes targets list items

/-- The tree of a text, and the link targets that it defines. -/
def parse (cs : List Char) : Element × Targets :=
  put (4 * cs.length + 64) [] [] (.blank "div") (blocksOf cs)

end Block

end RamlDocs.Markdown
