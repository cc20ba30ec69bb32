import RamlDocs.Definition.Resource
import RamlDocs.Value.Depth

/-!
# API definitions

`Api.ofMapping` puts a definition together from its root mapping and the root mappings of the
libraries it uses.
-/

namespace RamlDocs

/-- How many levels of resources may come from resource types alone. -/
def expansionLimit : Nat := 1000

/-- The older style of a list of mappings read as one mapping; other values as they are. -/
def gatheredEntries : Value → Mapping
  | .list vs => vs.foldl (fun m v => Mapping.overlay m v.entries) []
  | v => v.entries

/-- The security scheme that is declared under a key. -/
def SecurityScheme.ofDeclaration (key : Key) (declared : Value) : Except Fault SecurityScheme :=
  key.asText.map fun name =>
    { name, raw := Mapping.overlay [(.text "name", .text name)] declared.entries }

/-- The security schemes that `v` declares. -/
def SecurityScheme.all (v : Value) : Except Fault (List SecurityScheme) :=
  (gatheredEntries v).mapM fun e => SecurityScheme.ofDeclaration e.1 e.2

/-- The page of documentation that a mapping describes. -/
def DocumentationPage.ofMapping (m : Mapping) : Except Fault DocumentationPage := do
  let title ← Facet.text? (m.get "title")
  let content ← Facet.text? (m.get "content")
  .ok { title := title.getD "", content }

/-- The pages of documentation that `v` lists. -/
def DocumentationPage.all (v : Value) : Except Fault (List DocumentationPage) :=
  (v.items.filter Value.isMap).mapM fun item => DocumentationPage.ofMapping item.entries

/-- A library of the types that its root declares. -/
def Library.ofMapping (name : String) (root : Mapping) : Except Fault Library :=
  (TypeDecl.all root).map fun types => { name, types, raw := root }

/-- The resources of a definition. -/
def Api.resourcesOf (scope : Scope) : Traced (List Resource) :=
  Traced.mapList
    (Resource.ofDeclaration scope "" ((Value.map scope.root).depth + expansionLimit))
    (Resource.childrenOf scope.root)

/-- All of a definition but its resources and libraries. -/
def Api.frame (root : Mapping) (baseUri : Option String) : Except Fault Api := do
  let title ← Facet.text? (root.get "title")
  let version ← Facet.text? (root.get "version")
  let baseUriParameters ←
    Parameter.all (root.get "baseUriParameters") (Uri.variableNames (baseUri.getD ""))
  let protocols ← Facet.protocols (root.get "protocols") baseUri
  let description ← Facet.text? (root.get "description")
  let documentation ← DocumentationPage.all (root.get "documentation")
  let securedBy ← Facet.securedBy (root.get "securedBy")
  let securitySchemes ← SecurityScheme.all (root.get "securitySchemes")
  let types ← TypeDecl.all root
  .ok {
    title := title.getD ""
    version
    baseUri
    baseUriParameters
    protocols
    description
    documentation
    securedBy
    securitySchemes
    types
    raw := some root }

/-- The definition with the given root and libraries. -/
def Api.ofMapping (root : Mapping) (libraries : List Library) : Traced Api := do
  let scope ← Traced.ofExcept (Scope.ofRoot root (libraries.map fun l => (l.name, l.raw)))
  let baseUri ← Traced.ofExcept (Facet.text? (root.get "baseUri"))
  let resources ← Api.resourcesOf scope
  let frame ← Traced.ofExcept (Api.frame root baseUri)
  pure { frame with resources, libraries := libraries.map fun l => (l.name, l) }

end RamlDocs
