import RamlDocs.Text.Utf8
import RamlDocs.Value.Text

/-!
# Plain values

A definition keeps what a file holds as a plain value: the keys of mappings are texts, and so are
bytes and points in time. Tuples and sets stay as they are with everything inside them.
-/

namespace RamlDocs

mutual

/-- The value with texts for keys, bytes and points in time. Of two keys with one text the later
gives the value. -/
def Value.plain : Value → Except Fault Value
  | .bytes bs => .ok (.text (Utf8.decodeLossy bs))
  | .moment t => .ok (.text t.text)
  | .list vs => (plainItems vs).map .list
  | .map m => (plainEntries m).map fun es => .map (Mapping.ofList es)
  | v => .ok v

/-- All items as plain values. -/
def plainItems : List Value → Except Fault (List Value)
  | [] => .ok []
  | v :: vs => do
    let w ← v.plain
    let ws ← plainItems vs
    .ok (w :: ws)

/-- All entries as plain values under the texts of their keys. -/
def plainEntries : List (Key × Value) → Except Fault (List (Key × Value))
  | [] => .ok []
  | (k, v) :: m => do
    let name ← k.asText
    let w ← v.plain
    let rest ← plainEntries m
    .ok ((.text name, w) :: rest)

end

/-- The mapping with texts for keys and plain values. -/
def Mapping.plain (m : Mapping) : Except Fault Mapping := (plainEntries m).map Mapping.ofList

end RamlDocs
