import RamlDocs.Definition.Basic
import RamlDocs.Definition.Facet

/-!
# Parameters and properties

Declared parameters in the order of their declaration, followed by the variables of a URI
template that are not declared, each once.
-/

namespace RamlDocs

/-- The parameter that a declaration describes. -/
def Parameter.ofDeclaration (key : Key) (declared : Value) : Except Fault Parameter := do
  let (name, optional) ← Facet.optionalName key
  let decl := Facet.declaration declared
  let required := Facet.isRequired decl optional
  let types :=
    match Facet.typeList (Mapping.get decl "type") with
    | [] => ["string"]
    | types => types
  let description ← Facet.text? (Mapping.get decl "description")
  let unwrapped ← Facet.exampleValue (Mapping.get decl "example")
  let minLength ← Facet.int? (Mapping.get decl "minLength")
  let maxLength ← Facet.int? (Mapping.get decl "maxLength")
  let shown := Mapping.overlay [(.text "name", .text name)] decl
  .ok {
    name
    types
    description
    required
    exampleValue := Facet.structuredExample unwrapped
    defaultValue := Mapping.get decl "default"
    minLength
    maxLength
    repeats := (Mapping.get decl "repeat").bool?
    raw := (Mapping.set shown "type" (.list (types.map .text))).set "required" (.bool required) }

/-- The parameter for a variable that is not declared. -/
def Parameter.implicit (name : String) : Parameter where
  name
  types := ["string"]
  raw := [(.text "name", .text name), (.text "type", .list [.text "string"]),
    (.text "required", .bool true)]

/-- The names that are not among `known`, each once, in order of first occurrence. -/
def undeclared (known : List String) : List String → List String
  | [] => []
  | n :: ns => if known.contains n then undeclared known ns else n :: undeclared (n :: known) ns

/-- The parameters that `v` declares. -/
def Parameter.declared (v : Value) : Except Fault (List Parameter) :=
  v.entries.mapM fun e => Parameter.ofDeclaration e.1 e.2

/-- The declared parameters, and one for each further variable. -/
def Parameter.all (v : Value) (names : List String) : Except Fault (List Parameter) :=
  (Parameter.declared v).map fun ps =>
    ps ++ (undeclared (ps.map (·.name)) names).map Parameter.implicit

/-- The property that a declaration describes. -/
def Property.ofDeclaration (key : Key) (declared : Value) : Except Fault Property := do
  let (name, optional) ← Facet.optionalName key
  let decl := Facet.declaration declared
  let description ← Facet.text? (Mapping.get decl "description")
  .ok {
    name
    types :=
      match Facet.typeList (Mapping.get decl "type") with
      | [] => if Mapping.has decl "properties" then ["object"] else ["string"]
      | types => types
    description
    required := Facet.isRequired decl optional
    raw := Mapping.overlay [(.text "name", .text name)] decl }

/-- The properties that `v` declares. -/
def Property.all (v : Value) : Except Fault (List Property) :=
  v.entries.mapM fun e => Property.ofDeclaration e.1 e.2

end RamlDocs
