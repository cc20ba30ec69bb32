import RamlDocs.Yaml.Layout
import RamlDocs.Yaml.Tag

/-!
# Nodes

A document is a tree of nodes: scalars, lists and mappings, each with its tag. `Node.ofTokens` puts
the tokens of a text together. A reference stands for the node of its
anchor; a text has one document.
-/

namespace RamlDocs.Yaml

/-- A scalar, a list or a mapping, with its tag. -/
inductive Node where
  | scalar (tag : Tag) (text : String)
  | list (tag : Tag) (items : List Node)
  | map (tag : Tag) (entries : List (Node × Node))
  deriving Repr

namespace Node

/-- The node that stands where nothing is written. -/
def empty : Node := .scalar .null ""

/-- Tokens still to be read, with the shorthands for tags and the nodes with anchors. The node of
an anchor is missing as long as it is not complete. -/
structure Feed where
  tokens : List Token
  problem : Option Problem
  shorthands : List (String × String)
  anchors : List (String × Option Node)

/-- Reading of tokens. -/
abbrev Grammar := StateT Feed (Except Problem)

namespace Grammar

/-- The next token, which stays. -/
def peek : Grammar Token := do
  let feed ← get
  match feed.tokens with
  | t :: _ => pure t
  | [] => throw (feed.problem.getD .malformed)

/-- The next token dropped. -/
def advance : Grammar Unit := modify fun feed => { feed with tokens := feed.tokens.drop 1 }

/-- Whether the next token is one of `ts`. -/
def isAt (ts : List Token) : Grammar Bool := do
  let t ← peek
  pure (ts.contains t)

/-- The next token dropped if it is `t`. -/
def skip? (t : Token) : Grammar Bool := do
  if (← peek) == t then
    advance
    pure true
  else pure false

/-- The next token, which has to be `t`, dropped. -/
def expect (t : Token) : Grammar Unit := do
  if !(← skip? t) then throw .malformed

/-! ## Tags and anchors of a node -/

/-- The anchor at the next token, if there is one. -/
def anchor? : Grammar (Option String) := do
  match ← peek with
  | .anchor name => do
    advance
    pure (some name)
  | _ => pure none

/-- The tag at the next token, if there is one, written out in full. -/
def tag? : Grammar (Option String) := do
  match ← peek with
  | .tag none name => do
    advance
    pure (some name)
  | .tag (some handle) suffix => do
    advance
    match (← get).shorthands.lookup handle with
    | some start => pure (some (start ++ suffix))
    | none => throw .malformed
  | _ => pure none

/-- Anchor and tag of the next node, in either order. -/
def marks : Grammar (Option String × Option String) := do
  match ← anchor? with
  | some name => do
    let tag ← tag?
    pure (some name, tag)
  | none => do
    match ← tag? with
    | some tag => do
      let anchor ← anchor?
      pure (anchor, some tag)
    | none => pure (none, none)

/-- An anchor that starts a node. It has to be new. -/
def openAnchor (anchor : Option String) : Grammar Unit := do
  match anchor with
  | none => pure ()
  | some name => do
    let feed ← get
    if (feed.anchors.lookup name).isSome then throw .malformed
    set { feed with anchors := (name, none) :: feed.anchors }

/-- The node of an anchor, once it is complete. -/
def closeAnchor (anchor : Option String) (n : Node) : Grammar Node := do
  match anchor with
  | none => pure n
  | some name => do
    modify fun feed => { feed with anchors := (name, some n) :: feed.anchors }
    pure n

/-- The node that a reference stands for. -/
def referenced (name : String) : Grammar Node := do
  match (← get).anchors.lookup name with
  | some (some n) => pure n
  | some none => throw (.fault .cyclic)
  | none => throw .malformed

/-- The tag of a collection that by itself is of the kind `own`. -/
def collectionTag (own : Tag) (tag : Option String) : Tag :=
  match tag with
  | none => own
  | some name => if name == "!" then own else .ofName name

/-- A scalar with the tag that is written before it, if any. -/
def scalarNode (tag : Option String) (text : String) (plain : Bool) : Node :=
  match tag with
  | none => .scalar (if plain then .ofPlain text else .text) text
  | some name => .scalar (if name == "!" then .ofPlain text else .ofName name) text

/-! ## Nodes -/

mutual

/-- One node. Inside brackets no block can stand; the items of a list may stand at the margin of
the mapping around it if `inMap` says so. -/
def node : Nat → Bool → Bool → Grammar Node
  | 0, _, _ => throw .malformed
  | fuel + 1, inBlock, inMap => do
    match ← peek with
    | .reference name => do
      advance
      referenced name
    | _ => do
      let (anchor, tag) ← marks
      let list (items : Grammar (List Node)) : Grammar Node := do
        openAnchor anchor
        let items ← items
        closeAnchor anchor (.list (collectionTag .list tag) items)
      let map (entries : Grammar (List (Node × Node))) : Grammar Node := do
        openAnchor anchor
        let entries ← entries
        closeAnchor anchor (.map (collectionTag .map tag) entries)
      match ← peek with
      | .scalar text plain => do
        advance
        openAnchor anchor
        closeAnchor anchor (scalarNode tag text plain)
      | .openList => list (advance *> listItems fuel true)
      | .openMap => map (advance *> mapEntries fuel true)
      | .item => if inMap then list (marginItems fuel) else nothing anchor tag
      | .openBlockList =>
        if inBlock then list (advance *> blockItems fuel) else nothing anchor tag
      | .openBlockMap =>
        if inBlock then map (advance *> blockEntries fuel) else nothing anchor tag
      | _ => nothing anchor tag

/-- The empty node after an anchor or a tag; without either there has to be a node. -/
def nothing (anchor tag : Option String) : Grammar Node := do
  if anchor.isNone && tag.isNone then throw .malformed
  openAnchor anchor
  closeAnchor anchor (scalarNode tag "" true)

/-- A node, or nothing before one of the tokens `ends`. -/
def nodeBefore : Nat → List Token → Bool → Bool → Grammar Node
  | 0, _, _, _ => throw .malformed
  | fuel + 1, ends, inBlock, inMap => do
    if ← isAt ends then pure .empty else node fuel inBlock inMap

/-- The items of a block up to its end. -/
def blockItems : Nat → Grammar (List Node)
  | 0 => throw .malformed
  | fuel + 1 => do
    if ← skip? .item then
      let n ← nodeBefore fuel [.item, .closeBlock] true false
      let ns ← blockItems fuel
      pure (n :: ns)
    else
      expect .closeBlock
      pure []

/-- The items of a list that stands at the margin of the mapping around it. -/
def marginItems : Nat → Grammar (List Node)
  | 0 => throw .malformed
  | fuel + 1 => do
    if ← skip? .item then
      let n ← nodeBefore fuel [.item, .key, .value, .closeBlock] true false
      let ns ← marginItems fuel
      pure (n :: ns)
    else pure []

/-- The entries of a block up to its end. Each starts with its key. -/
def blockEntries : Nat → Grammar (List (Node × Node))
  | 0 => throw .malformed
  | fuel + 1 => do
    let ends := [Token.key, .value, .closeBlock]
    if ← skip? .key then
      let k ← nodeBefore fuel ends true true
      let v ← if ← skip? .value then nodeBefore fuel ends true true else pure .empty
      let es ← blockEntries fuel
      pure ((k, v) :: es)
    else
      expect .closeBlock
      pure []

/-- The items of a list in brackets. An item with a colon is a mapping of one entry. -/
def listItems : Nat → Bool → Grammar (List Node)
  | 0, _ => throw .malformed
  | fuel + 1, first => do
    if ← skip? .closeList then pure []
    else
      if !first then expect .comma
      if ← skip? .key then
        let ends := [Token.comma, .closeList]
        let k ← nodeBefore fuel (.value :: ends) false false
        let v ← if ← skip? .value then nodeBefore fuel ends false false else pure .empty
        let ns ← listItems fuel false
        pure (.map .map [(k, v)] :: ns)
      else if ← skip? .closeList then pure []
      else
        let n ← node fuel false false
        let ns ← listItems fuel false
        pure (n :: ns)

/-- The entries of a mapping in brackets. -/
def mapEntries : Nat → Bool → Grammar (List (Node × Node))
  | 0, _ => throw .malformed
  | fuel + 1, first => do
    if ← skip? .closeMap then pure []
    else
      if !first then expect .comma
      if ← skip? .key then
        let ends := [Token.comma, .closeMap]
        let k ← nodeBefore fuel (.value :: ends) false false
        let v ← if ← skip? .value then nodeBefore fuel ends false false else pure .empty
        let es ← mapEntries fuel false
        pure ((k, v) :: es)
      else if ← skip? .closeMap then pure []
      else
        let k ← node fuel false false
        let es ← mapEntries fuel false
        pure ((k, .empty) :: es)

end

/-! ## Documents -/

/-- The shorthands that need no directive. -/
def ownShorthands : List (String × String) := [("!", "!"), ("!!", Tag.standard)]

/-- The directives before a document. Each shorthand and the version are given at most once, and
the major version is one. -/
def directives : List Token → Option (Nat × Nat) → List (String × String) →
    Except Problem (List (String × String) × List Token)
  | .directive (.version major minor) :: ts, version, shorthands =>
    if version.isSome || major != 1 then .error .malformed
    else directives ts (some (major, minor)) shorthands
  | .directive (.shorthand handle start) :: ts, version, shorthands =>
    if (shorthands.lookup handle).isSome then .error .malformed
    else directives ts version (shorthands ++ [(handle, start)])
  | .directive .other :: ts, version, shorthands => directives ts version shorthands
  | ts, _, shorthands => .ok (shorthands ++ ownShorthands, ts)

/-- The marks of a document's end, and the end of the text behind them. -/
def documentEnd : List Token → Option Problem → Except Problem Unit
  | .documentEnd :: ts, problem => documentEnd ts problem
  | .textEnd :: _, _ => .ok ()
  | _ :: _, _ => .error .malformed
  | [], problem => .error (problem.getD .malformed)

/-- The document of a text, the empty node if the text has none. `fuel` is at least the number of
steps through the grammar. -/
def document (fuel : Nat) : Grammar Node := do
  match ← peek with
  | .textEnd => pure .empty
  | .documentStart | .directive _ => do
    let feed ← get
    let (shorthands, tokens) ← (directives feed.tokens none [] : Except Problem _)
    set { feed with shorthands, tokens }
    expect .documentStart
    match ← peek with
    | .directive _ | .documentStart | .documentEnd | .textEnd => pure .empty
    | _ => node fuel true false
  | _ => node fuel true false

end Grammar

/-- The document that tokens spell. -/
def ofTokens (ts : Tokens) : Except Problem Node := do
  let feed : Feed := ⟨ts.tokens, ts.problem, Grammar.ownShorthands, []⟩
  let (n, feed) ← (Grammar.document (3 * ts.tokens.length + 3)).run feed
  Grammar.documentEnd feed.tokens feed.problem
  .ok n

/-- The document that a text spells. -/
def ofText (s : String) : Except Problem Node := ofTokens (Layout.tokens s.toList)

end Node

end RamlDocs.Yaml
