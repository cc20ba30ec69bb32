import RamlDocs.Definition.Scope
import RamlDocs.Json.Obstacle
import RamlDocs.Json.Writer
import RamlDocs.Value.Merge

/-!
# Bodies and their examples

A body facet lists bodies by media type if all its keys are media types; otherwise it declares
one body of the default media type. The type of a body may be a JSON schema, type expressions, or
a declaration written in place.
-/

namespace RamlDocs

/-- The JSON text of an example. -/
def NamedExample.jsonText (v : Value) : Except Fault String :=
  match Json.obstacle? true v with
  | none => .ok (Json.compact v)
  | some o => .error (.noJson o)

/-- An example with its text. -/
def NamedExample.ofDeclaration (key : Key) (declared : Value) : Except Fault NamedExample := do
  match ← Facet.exampleValue declared with
  | .text s =>
    let name ← key.asText
    .ok { name, text := some s, structured := (Facet.readJson? s).getD .null }
  | v =>
    let text ← NamedExample.jsonText v
    let name ← key.asText
    .ok { name, text := some text, structured := v }

/-- The examples that `v` declares. -/
def NamedExample.all (v : Value) : Except Fault (List NamedExample) :=
  v.entries.mapM fun e => NamedExample.ofDeclaration e.1 e.2

/-- The body of a media type that a declaration describes. -/
def Body.ofDeclaration (scope : Scope) (mediaType : String) (declared : Value) :
    Except Fault Body := do
  let outer := Facet.declaration declared
  let (decl, type) :=
    match Facet.declaredType outer with
    | .map inner => (Mapping.merge outer (Mapping.without inner "type"), Mapping.get inner "type")
    | type => (outer, type)
  let (types, schema) :=
    match Facet.jsonText? type with
    | some s => ([], some s)
    | none =>
      match Facet.typeList type with
      | [name] => ([name], scope.schema? name)
      | types => (types, none)
  let properties ← Property.all (Mapping.get decl "properties")
  let unwrapped ← Facet.exampleValue (Mapping.get decl "example")
  let namedExamples ← NamedExample.all (Mapping.get decl "examples")
  .ok {
    mediaType
    types :=
      if types.isEmpty && !properties.isEmpty && schema.isNone then ["object"] else types
    properties
    schema := Value.ofText? schema
    exampleValue := Facet.structuredExample unwrapped
    namedExamples
    raw := Mapping.overlay [(.text "name", .text mediaType)] decl }

/-- Whether a key of a body facet names a media type. -/
def Body.isMediaType (k : Key) : Except Fault Bool := k.asText.map fun s => s.toList.contains '/'

/-- The body that an entry of a body facet declares. -/
def Body.ofEntry (scope : Scope) (e : Key × Value) : Except Fault Body := do
  let mediaType ← e.1.asText
  Body.ofDeclaration scope mediaType e.2

/-- The bodies that `v` declares. -/
def Body.all (scope : Scope) (v : Value) : Except Fault (List Body) :=
  match v with
  | .null => .ok []
  | .text _ | .list _ => (Body.ofDeclaration scope scope.mediaType v).map fun b => [b]
  | v => do
    let m := v.entries
    if ← m.allM fun e => Body.isMediaType e.1 then m.mapM (Body.ofEntry scope)
    else (Body.ofDeclaration scope scope.mediaType (.map m)).map fun b => [b]

end RamlDocs
