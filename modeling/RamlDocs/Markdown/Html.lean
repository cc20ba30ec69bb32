import RamlDocs.Markdown.Rule

/-!
# Formatted text as HTML

The tree of a formatted text is put together, laid out on lines, and written. Characters that HTML
needs for itself are written as entities, except where an ampersand starts an entity already.
-/

namespace RamlDocs.Markdown

/-! ## Putting the tree together -/

mutual

/-- Symbols as text with the elements among them, each with the text behind it. -/
def settle : List Symbol → List Symbol × Children
  | [] => ([], [])
  | .held symbols :: ss =>
    let (text, children) := settle ss
    (symbols ++ text, children)
  | .element e :: ss =>
    let (text, children) := settle ss
    ([], (e.settled, text) :: children)
  | .char c :: ss =>
    let (text, children) := settle ss
    (.char c :: text, children)
  | .escaped c :: ss =>
    let (text, children) := settle ss
    (.escaped c :: text, children)
  | .html h :: ss =>
    let (text, children) := settle ss
    (.html h :: text, children)

/-- The element with the elements among its text made children. -/
def Element.settled : Element → Element
  | .mk tag attributes text fixed children =>
    let (text, found) := settle text
    .mk tag attributes text fixed (found ++ settleChildren children)

/-- Children with the elements among the text behind them made children. -/
def settleChildren : List (Element × List Symbol) → List (Element × List Symbol)
  | [] => []
  | (e, tail) :: rest =>
    let (tail, found) := settle tail
    (e.settled, tail) :: (found ++ settleChildren rest)

end

/-! ## Lines -/

/-- Whether a text has nothing but blanks. -/
def isBlankText (ss : List Symbol) : Bool := ss.all Symbol.isBlank

/-- Text with one line end at its end. -/
def endLine (ss : List Symbol) : List Symbol :=
  (ss.reverse.dropWhile Symbol.isBlank).reverse ++ [.char '\n']

/-- The text behind a child, so that blocks and broken lines end their line. -/
def tailOf (tag : String) (inBlock : Bool) (tail : List Symbol) : List Symbol :=
  if tag == "br" then if isBlankText tail then [.char '\n'] else .char '\n' :: tail
  else if inBlock && isBlockTag tag && isBlankText tail then [.char '\n']
  else tail

mutual

/-- An element with its blocks on lines of their own. -/
def Element.onLines (inBlock : Bool) : Element → Element
  | .mk tag attributes text fixed children =>
    let isPlain := inBlock && isBlockTag tag && tag != "pre"
    let text :=
      if isPlain && isBlankText text && (children.head?).any (fun c => isBlockTag c.1.tag) then
        [.char '\n']
      else text
    .mk tag attributes text fixed (childrenOnLines isPlain tag children)

/-- Children of an element of the given tag on lines of their own. -/
def childrenOnLines (inBlock : Bool) (parent : String) :
    List (Element × List Symbol) → List (Element × List Symbol)
  | [] => []
  | (e, tail) :: rest =>
    let e :=
      if parent == "pre" && e.tag == "code" then e.withText (endLine e.text)
      else e.onLines inBlock
    (e, tailOf e.tag inBlock tail) :: childrenOnLines inBlock parent rest

end

/-! ## Writing -/

/-- Symbols without escapes. -/
def unescape (ss : List Symbol) : List Symbol :=
  ss.map fun s =>
    match s with
    | .escaped c => .char c
    | s => s

/-- Whether an entity stands behind an ampersand. -/
def startsEntity (ss : List Symbol) : Bool :=
  match Rule.upTo ';' ss with
  | some (inner, _) => ((inner.mapM Symbol.char?).map fun cs =>
      Rule.isEntityName (cs.map Char.toLower)).getD false
  | none => false

/-- Text with the characters that HTML needs for itself as entities; in an attribute the double
quote is one of them. -/
def escapeText (inAttribute : Bool) : List Symbol → List Symbol
  | [] => []
  | s :: ss =>
    let written : List Symbol :=
      match s.char? with
      | some '&' => if startsEntity ss then [s] else Symbol.ofChars "&amp;".toList
      | some '<' => Symbol.ofChars "&lt;".toList
      | some '>' => Symbol.ofChars "&gt;".toList
      | some '\x22' => if inAttribute then Symbol.ofChars "&quot;".toList else [s]
      | _ => [s]
    written ++ escapeText inAttribute ss

/-- One attribute with a space before it. -/
def writeAttribute (name : String) (value : List Symbol) : List Symbol :=
  Symbol.ofChars (' ' :: name.toList ++ ['=', '\x22']) ++ escapeText true (unescape value) ++
    [.char '\x22']

/-- Tags of elements without content. -/
def emptyTags : List String := ["br", "hr", "img"]

mutual

/-- An element as HTML. -/
def Element.write : Element → List Symbol
  | .mk tag attributes text _ children =>
    let start := Symbol.ofChars ('<' :: tag.toList) ++
      attributes.flatMap fun a => writeAttribute a.1 a.2
    if emptyTags.contains tag then start ++ Symbol.ofChars " />".toList
    else
      let text := if tag == "code" then text else unescape text
      start ++ .char '>' :: escapeText false text ++ writeChildren children ++
        Symbol.ofChars ("</".toList ++ tag.toList ++ ['>'])

/-- Children and the text behind each as HTML. -/
def writeChildren : List (Element × List Symbol) → List Symbol
  | [] => []
  | (e, tail) :: rest => e.write ++ escapeText false (unescape tail) ++ writeChildren rest

end

/-- An element by itself as the characters of its HTML. -/
def Element.html (e : Element) : List Char :=
  e.settled.write.flatMap fun s =>
    match s with
    | .char c => [c]
    | .html text => text
    | _ => []

/-! ## Ready HTML -/

/-- Whether HTML stands on lines of its own: a block, a comment or an instruction. -/
def isBlockHtml (text : List Char) : Bool :=
  match text with
  | '<' :: rest =>
    let rest := match rest with
      | '/' :: rest => rest
      | rest => rest
    let name := rest.takeWhile fun c => c != ' ' && c != '>'
    let tag := Text.dropRightWhile (· == '/') (Text.lower name)
    match name with
    | [] => false
    | c :: _ => ['!', '?', '@', '%'].contains c || isBlockTag (String.ofList tag)
  | _ => false

/-- The characters of written HTML. A paragraph that holds nothing but a block of ready HTML gives
way to it. -/
def putHtml (skip : Nat) : List Symbol → List Char
  | [] => []
  | s :: ss =>
    match skip with
    | skip + 1 => putHtml skip ss
    | 0 =>
      let block? : Option (List Char) :=
        match Rule.dropChars "<p>".toList (s :: ss) with
        | some (.html text :: rest) =>
          if isBlockHtml text && (Rule.dropChars "</p>".toList rest).isSome then some text else none
        | _ => none
      match block?, s with
      | some text, _ => text ++ putHtml 7 ss
      | none, .html text => text ++ putHtml 0 ss
      | none, .char c => c :: putHtml 0 ss
      | none, _ => putHtml 0 ss

/-- The content of a tree as HTML. -/
def Element.content (root : Element) : List Char :=
  match root.onLines true with
  | .mk _ _ text _ children =>
    Text.trim (putHtml 0 (Symbol.trim (escapeText false (unescape text) ++ writeChildren children)))

end RamlDocs.Markdown
