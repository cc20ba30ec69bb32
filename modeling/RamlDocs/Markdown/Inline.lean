import RamlDocs.Markdown.Emphasis
import RamlDocs.Markdown.Html
import RamlDocs.Markdown.Link

/-!
# Meaning within lines

The rules are applied to the text of every element one after another, each from left to right, and
emphasis comes last. The text of an element that a rule finds is left to the later rules. Children
of an element that has both text and children are looked at once more.
-/

namespace RamlDocs.Markdown.Inline

/-- All rules in their order, for the link targets of a text. -/
def rules (targets : Targets) : List Rule :=
  [Rule.code, Rule.escape, Link.named targets false, Link.inline false, Link.inline true,
    Link.named targets true, Link.short targets false, Link.short targets true, Rule.autolink,
    Rule.automail, Rule.lineBreak, Rule.html Element.html, Rule.entity, Rule.loneMark]

/-- Symbols with a rule applied from left to right. `complete` finishes what the rule puts in, which
the rule does not look at again. `before` holds the symbols in front, the last one first. Every step
uses up a symbol, which bounds `fuel`. -/
def sweep (rule : Rule) (complete : Symbol → Symbol) :
    Nat → List Symbol → List Symbol → List Symbol
  | 0, _, ss => ss
  | _ + 1, _, [] => []
  | fuel + 1, before, s :: ss =>
    match rule before (s :: ss) with
    | none => s :: sweep rule complete fuel (s :: before) ss
    | some (.replace new rest) =>
      complete new :: sweep rule complete fuel (new :: before) rest
    | some (.pass rest) =>
      let passed := (s :: ss).take (ss.length + 1 - rest.length)
      passed ++ sweep rule complete fuel (passed.reverse ++ before) rest

/-- A symbol that a rule found, with the rules after it applied inside it. -/
def complete (inside : List Symbol → List Symbol) : Symbol → Symbol
  | .element e => if e.isFixed then .element e else .element (e.withText (inside e.text))
  | s => s

/-- Rules applied one after another, and emphasis behind them. -/
def applyAll (inside : List Rule → List Symbol → List Symbol) : List Rule → List Symbol →
    List Symbol
  | [], ss => Emphasis.mark ss
  | rule :: later, ss =>
    applyAll inside later (sweep rule (complete (inside later)) (ss.length + 1) [] ss)

/-- Rules applied to a text and inside all that they find. What is inside is shorter, so the length
of the text bounds `fuel`. -/
def applyDeep : Nat → List Rule → List Symbol → List Symbol
  | 0, _, ss => ss
  | fuel + 1, rules, ss => applyAll (applyDeep fuel) rules ss

/-- A text with the elements that rules find in it. -/
def read (rules : List Rule) (ss : List Symbol) : List Symbol × Children :=
  settle (applyDeep (ss.length + 1) rules ss)

/-- Children with the rules applied to the text of each and behind each. Elements found behind a
child come after it and are looked at as well. Every step uses up some of the text, which bounds
`fuel`. -/
def visit (rules : List Rule) : Nat → Children → Children
  | 0, cs => cs
  | _ + 1, [] => []
  | fuel + 1, (c, tail) :: rest =>
    let (text, found) := if c.isFixed then (c.text, []) else read rules c.text
    let (tail, after) := read rules tail
    let found := found.map fun (e, tail) => (e.withChildren (visit rules fuel e.children), tail)
    let e := (c.withText text).withChildren (found ++ c.children)
    let e :=
      if c.children.isEmpty then e else e.withChildren (visit rules fuel e.children)
    (e, tail) :: visit rules fuel (after ++ rest)

mutual

/-- The number of symbols and elements of an element. -/
def size : Element → Nat
  | .mk _ _ text _ children => text.length + childSizes children + 1

/-- The number of symbols and elements of children and behind them. -/
def childSizes : List (Element × List Symbol) → Nat
  | [] => 0
  | (e, tail) :: rest => size e + tail.length + childSizes rest

end

/-- A tree with the rules applied to all its texts. -/
def resolve (targets : Targets) (root : Element) : Element :=
  root.withChildren (visit (rules targets) (4 * size root + 16) root.children)

end RamlDocs.Markdown.Inline
