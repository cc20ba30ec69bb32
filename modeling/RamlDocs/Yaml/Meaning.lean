import RamlDocs.Value.Basic
import RamlDocs.Yaml.Node
import RamlDocs.Yaml.Scalar
import RamlDocs.Yaml.Staged

/-!
# What a file means

`meaning` gives a node its value: scalars by their tags, mappings with the mappings merged into
them, sets, and lists of pairs. The content of another file comes in where a scalar names it. Keys
keep their kind here, and so do bytes and points in time.
-/

namespace RamlDocs.Yaml

/-- Keys and values in the making. -/
abbrev Entries := List (Staged Problem Key × Staged Problem Value)

/-- What a node is good for, depending on its place. -/
structure Meaning where
  /-- The characters of the node. -/
  text : Option String
  /-- The node as a value. -/
  whole : Staged Problem Value
  /-- The node as a key. -/
  key : Staged Problem Key
  /-- The entries of a mapping; none if what is merged into it is none. -/
  entries : Option Entries
  /-- What the node adds to a mapping that it is merged into. -/
  added : Option Entries
  /-- The one entry of a mapping of one. -/
  single : Option (Staged Problem Value × Staged Problem Value)

/-- Work that breaks the format. -/
def malformed {α : Type} : Staged Problem α := .error (0, .malformed)

/-- Whether a key is the floating point value that is no number, which equals no key. -/
def isNaN : Key → Bool
  | .float x => x.magnitude == .nan
  | _ => false

/-- One more entry of a mapping. -/
def putEntry (m : Mapping) (e : Key × Value) : Mapping :=
  if isNaN e.1 then m ++ [e] else m.put e.1 e.2

/-- A collection of the entries, once each key has one value. -/
def ofEntries (collect : Mapping → Value) (es : Entries) : Staged Problem Value :=
  Staged.filled (fun es => collect (es.foldl putEntry [])) (es.map fun e => Staged.both e.1 e.2)

/-- A collection that has no contents of the right kind. -/
def misfit : Staged Problem Value := Staged.later malformed

/-- A node whose value is read off its characters. -/
def ofSpelling (file : String → Except Problem Value) (tag : Tag) (text : Option String) :
    Staged Problem Value :=
  match text with
  | none => malformed
  | some text =>
    if tag = .fileContent then .now (file text)
    else
      match Scalar.ofText? tag text with
      | some x => .now (x.map Key.toValue)
      | none => malformed

/-- Whether values of a tag are collections, which are filled one stage later. -/
def isCollection : Tag → Bool
  | .list | .map | .set | .pairs | .orderedMap => true
  | _ => false

/-- The key that a value is. -/
def keyOf (tag : Tag) (whole : Staged Problem Value) : Staged Problem Key :=
  if isCollection tag then malformed
  else
    whole >>= fun v =>
      match v.key? with
      | some k => .ok k
      | none => malformed

/-- The meaning of a scalar. -/
def scalarMeaning (file : String → Except Problem Value) (tag : Tag) (text : String) : Meaning :=
  let whole := if isCollection tag then misfit else ofSpelling file tag (some text)
  { text := some text, whole, key := keyOf tag whole, entries := none, added := none, single := none }

/-- The meaning of a list of nodes. Merged into a mapping, its mappings count from the last on. -/
def listMeaning (file : String → Except Problem Value) (tag : Tag) (items : List Meaning) :
    Meaning :=
  let whole : Staged Problem Value :=
    match tag with
    | .list => Staged.filled .list (items.map (·.whole))
    | .pairs | .orderedMap =>
      let pair (m : Meaning) : Staged Problem (Value × Value) :=
        match m.single with
        | some (k, v) => Staged.both k v
        | none => malformed
      Staged.filled (fun ps => .list (ps.map fun p => .tuple [p.1, p.2])) (items.map pair)
    | .map | .set => misfit
    | _ => ofSpelling file tag none
  { text := none
    whole
    key := keyOf tag whole
    entries := none
    added := (items.mapM Meaning.entries).map fun es => es.reverse.flatten
    single := none }

/-- The entries of a mapping node: those merged into it first, then its own. A key that is an
equals sign is a text. -/
def mappingEntries (es : List (Tag × Meaning × Meaning)) : Option Entries :=
  let isMerge (e : Tag × Meaning × Meaning) : Bool := e.1 == .merge
  let key (tag : Tag) (m : Meaning) : Staged Problem Key :=
    if tag = .value then
      match m.text with
      | some s => .ok (.text s)
      | none => malformed
    else m.key
  let own := (es.filter fun e => !isMerge e).map fun e => (key e.1 e.2.1, e.2.2.whole)
  let merged := (es.filter isMerge).mapM fun e => e.2.2.added
  merged.map fun added => added.flatten ++ own

/-- The meaning of a mapping node. -/
def mapMeaning (file : String → Except Problem Value) (tag : Tag)
    (es : List (Tag × Meaning × Meaning)) : Meaning :=
  let text := (es.find? fun e => e.1 == .value).bind fun e => e.2.2.text
  let entries := mappingEntries es
  let whole : Staged Problem Value :=
    match tag, entries with
    | .map, some entries => ofEntries .map entries
    | .set, some entries => ofEntries (fun es => .set (es.map (·.1))) entries
    | .timestamp, _ =>
      match text with
      | some _ => .now (.error (.fault .dateInMapping))
      | none => malformed
    | _, _ => if isCollection tag then misfit else ofSpelling file tag text
  { text
    whole
    key := keyOf tag whole
    entries
    added := entries
    single :=
      match es with
      | [(_, k, v)] => some (k.whole, v.whole)
      | _ => none }

/-- The tag of a node. -/
def tagOf : Node → Tag
  | .scalar tag _ => tag
  | .list tag _ => tag
  | .map tag _ => tag

mutual

/-- What a node means, with the contents of other files by their names. -/
def meaning (file : String → Except Problem Value) : Node → Meaning
  | .scalar tag text => scalarMeaning file tag text
  | .list tag items => listMeaning file tag (meanings file items)
  | .map tag entries => mapMeaning file tag (entryMeanings file entries)

/-- What all nodes of a list mean. -/
def meanings (file : String → Except Problem Value) : List Node → List Meaning
  | [] => []
  | n :: ns => meaning file n :: meanings file ns

/-- What all keys and values mean, with the tags of the keys. -/
def entryMeanings (file : String → Except Problem Value) :
    List (Node × Node) → List (Tag × Meaning × Meaning)
  | [] => []
  | (k, v) :: es => (tagOf k, meaning file k, meaning file v) :: entryMeanings file es

end

/-- The value of a document, with the contents of other files by their names. -/
def valueOf (file : String → Except Problem Value) (n : Node) : Except Problem Value :=
  (meaning file n).whole.outcome

/-- The value of a text, with the contents of other files by their names. -/
def read (file : String → Except Problem Value) (s : String) : Except Problem Value := do
  let n ← Node.ofText s
  valueOf file n

end RamlDocs.Yaml
