import RamlDocs.Template.Placeholder
import RamlDocs.Template.Transform
import RamlDocs.Value.Text

/-!
# Filling in templates

`Template.fill` replaces the placeholders in the texts of a value, keys included. A text that is
nothing but one placeholder without a transformation becomes the value of its parameter; inside
longer text the value's text is put in. Placeholders of unknown parameters stay as they are.
-/

namespace RamlDocs.Template

/-- Parameters and their values; the first of a name counts. -/
abbrev Params := List (String × Value)

/-- The parameters of a mapping. Only texts name parameters. -/
def Params.ofMapping (m : Mapping) : Params := m.texts

/-- A piece with the value of its parameter put in. -/
def Piece.fill (params : Params) : Piece → Except Fault (List Char)
  | .char c => .ok [c]
  | .hole p =>
    match params.lookup (String.ofList p.name) with
    | none => .ok p.source
    | some v => v.asText.map fun s =>
      match p.transform with
      | none => s.toList
      | some t => transform (String.ofList t) s.toList

/-- The parameter that a whole text stands for. -/
def wholeValue? (params : Params) (cs : List Char) : Option Value :=
  match whole? cs with
  | some ⟨name, none, _⟩ => params.lookup (String.ofList name)
  | _ => none

/-- A text with its placeholders filled in. -/
def fillText (params : Params) (s : String) : Except Fault Value :=
  match wholeValue? params s.toList with
  | some v => .ok v
  | none => do
    let pieces ← (parse s.toList).mapM (Piece.fill params)
    .ok (.text (String.ofList pieces.flatten))

/-- A value in key position. -/
def toKey (v : Value) : Except Fault Key :=
  match v.key? with
  | some k => .ok k
  | none => .error (.containerKey v.kind)

/-- A key with its placeholders filled in, as a value. -/
def fillKey (params : Params) : Key → Except Fault Value
  | .text s => fillText params s
  | k => .ok k.toValue

mutual

/-- A value with the placeholders in its texts filled in. -/
def fill (params : Params) : Value → Except Fault Value
  | .text s => fillText params s
  | .list vs => (fillItems params vs).map .list
  | .map m => (fillEntries params [] m).map .map
  | v => .ok v

/-- Items with their placeholders filled in. -/
def fillItems (params : Params) : List Value → Except Fault (List Value)
  | [] => .ok []
  | v :: vs => do
    let w ← fill params v
    let ws ← fillItems params vs
    .ok (w :: ws)

/-- Entries with their placeholders filled in, put after those of `done`. Keys that become equal
fall together. -/
def fillEntries (params : Params) (done : Mapping) : List (Key × Value) → Except Fault Mapping
  | [] => .ok done
  | (k, v) :: m => do
    let name ← fillKey params k
    let w ← fill params v
    let l ← toKey name
    fillEntries params (done.put l w) m

end

end RamlDocs.Template
