import RamlDocs.Definition.Parameter

/-!
# Type declarations

A type is declared by a JSON schema, by properties, or by the types it inherits from. Types may
stand under `types` or, in the older style, under `schemas`.
-/

namespace RamlDocs

/-- The types a definition or library declares; of two with the same name the one under `types`
counts. -/
def TypeDecl.declarations (root : Mapping) : Mapping :=
  Mapping.overlay (Mapping.get root "schemas").entries (Mapping.get root "types").entries

/-- The type that a declaration describes. -/
def TypeDecl.ofDeclaration (key : Key) (declared : Value) : Except Fault TypeDecl := do
  let name ← key.asText
  match Facet.jsonText? declared with
  | some s => .ok { name, schema := .text s, raw := declared }
  | none =>
    let decl := Facet.declaration declared
    let type := Facet.declaredType decl
    let schema := Facet.jsonText? type
    let properties ← Property.all (Mapping.get decl "properties")
    .ok {
      name
      parents := if schema.isSome then [] else Facet.typeList type
      properties
      schema := Value.ofText? schema
      raw := declared }

/-- The types of a definition or library. -/
def TypeDecl.all (root : Mapping) : Except Fault (List TypeDecl) :=
  (TypeDecl.declarations root).mapM fun e => TypeDecl.ofDeclaration e.1 e.2

end RamlDocs
