import RamlDocs.Text.Letter

/-!
# Formatted text

A formatted text is a tree of elements. The text of an element is a list of symbols: characters
that rules may still give a meaning, and symbols that have theirs already. An escaped character
stands for itself, ready HTML is written as it is, and an element that a rule has found keeps its
place among the characters until the tree is put together.
-/

namespace RamlDocs.Markdown

mutual

/-- A piece of text. -/
inductive Symbol where
  | char (c : Char)
  | escaped (c : Char)
  | html (text : List Char)
  | held (symbols : List Symbol)
  | element (e : Element)

/-- An element with its attributes, its text, and its children, each with the text behind it. No
rule applies to fixed text. -/
inductive Element where
  | mk (tag : String) (attributes : List (String × List Symbol)) (text : List Symbol) (fixed : Bool)
    (children : List (Element × List Symbol))

end

/-- Children and the text behind each. -/
abbrev Children := List (Element × List Symbol)

/-- Tags of elements that stand on lines of their own. -/
def blockTags : List String :=
  ["address", "article", "aside", "blockquote", "body", "canvas", "center", "colgroup", "dd",
    "details", "div", "dl", "dt", "fieldset", "figcaption", "figure", "footer", "form", "group",
    "h1", "h2", "h3", "h4", "h5", "h6", "header", "hgroup", "hr", "html", "iframe", "legend", "li",
    "main", "map", "math", "menu", "nav", "noscript", "object", "ol", "option", "output", "p",
    "pre", "progress", "script", "search", "section", "style", "summary", "table", "tbody", "td",
    "textarea", "tfoot", "th", "thead", "tr", "ul", "video"]

/-- Whether elements of a tag stand on lines of their own. -/
def isBlockTag (tag : String) : Bool := blockTags.contains tag

namespace Symbol

/-- The character of a symbol that is one and has no meaning yet. -/
def char? : Symbol → Option Char
  | .char c => some c
  | _ => none

/-- Whether the symbol is the character `c`. -/
def is (c : Char) (s : Symbol) : Bool := s.char? == some c

/-- Whether the symbol is a blank character. -/
def isBlank (s : Symbol) : Bool := (s.char?).any Text.isBlank

/-- Whether the symbol is a character of a word. -/
def isWord (s : Symbol) : Bool := (s.char?).any Text.isWord

/-- Characters as symbols. -/
def ofChars (cs : List Char) : List Symbol := cs.map .char

/-- The symbols without blanks at both ends. -/
def trim (ss : List Symbol) : List Symbol :=
  ((ss.dropWhile isBlank).reverse.dropWhile isBlank).reverse

/-- The characters of symbols that are all characters. -/
def chars? (ss : List Symbol) : Option (List Char) := ss.mapM char?

end Symbol

namespace Element

/-- An element without attributes. -/
def ofText (tag : String) (text : List Symbol) : Element := .mk tag [] text false []

/-- An element that is empty so far. -/
def blank (tag : String) : Element := .ofText tag []

/-- The tag of an element. -/
def tag : Element → String
  | .mk tag _ _ _ _ => tag

/-- The text before the first child. -/
def text : Element → List Symbol
  | .mk _ _ text _ _ => text

/-- Whether no rule applies to the text. -/
def isFixed : Element → Bool
  | .mk _ _ _ fixed _ => fixed

/-- The children with the text behind each. -/
def children : Element → Children
  | .mk _ _ _ _ children => children

/-- The element with another text. -/
def withText (text : List Symbol) : Element → Element
  | .mk tag attributes _ fixed children => .mk tag attributes text fixed children

/-- The element with other children. -/
def withChildren (children : Children) : Element → Element
  | .mk tag attributes text fixed _ => .mk tag attributes text fixed children

/-- The element with one more child. -/
def push (e child : Element) : Element := e.withChildren (e.children ++ [(child, [])])

/-- The last child. -/
def last? (e : Element) : Option Element := (e.children.getLast?).map (·.1)

/-- Whether the last child has one of the tags. -/
def endsWith (tags : List String) (e : Element) : Bool :=
  (e.last?).any fun c => tags.contains c.tag

/-- The element with its last child changed. -/
def mapLast (f : Element → Element) (e : Element) : Element :=
  match e.children.getLast? with
  | none => e
  | some (c, tail) => e.withChildren (e.children.dropLast ++ [(f c, tail)])

/-- The text in front of all children made a paragraph, if there is any. -/
def wrapText (e : Element) : Element :=
  if e.text.isEmpty then e
  else (e.withText []).withChildren ((.ofText "p" e.text, []) :: e.children)

/-- The text behind the last child made a paragraph, if there is any. -/
def wrapTail (e : Element) : Element :=
  match e.children.getLast? with
  | none => e
  | some (c, tail) =>
    if tail.isEmpty then e
    else e.withChildren
      (e.children.dropLast ++ [(c, []), (.ofText "p" (tail.dropWhile Symbol.isBlank), [])])

end Element

mutual

/-- The text of an element and of all elements in it. -/
def Element.allText : Element → List Symbol
  | .mk _ _ text _ children => plainSymbols text ++ childText children

/-- The text of children and behind them. -/
def childText : List (Element × List Symbol) → List Symbol
  | [] => []
  | (e, tail) :: rest => e.allText ++ plainSymbols tail ++ childText rest

/-- Symbols with the text of elements in the place of the elements. -/
def plainSymbols : List Symbol → List Symbol
  | [] => []
  | s :: ss => s.plain ++ plainSymbols ss

/-- The symbols that stand for a symbol where only text can stand. -/
def Symbol.plain : Symbol → List Symbol
  | .char c => [.char c]
  | .escaped c => [.escaped c]
  | .html text => [.html text]
  | .held symbols => plainSymbols symbols
  | .element e => e.allText

end

end RamlDocs.Markdown
