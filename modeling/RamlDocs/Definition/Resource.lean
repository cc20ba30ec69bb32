import RamlDocs.Definition.ResourceType
import RamlDocs.Template.Uri

/-!
# Resources

A key that begins with a slash is a resource, and its value holds the methods of the resource and
the resources below it, once its resource type has been applied. A resource type may bring
resources of its own, so the depth of the expansion is not bounded by that of the definition;
`Resource.ofDeclaration` goes down as many levels as its first argument says.
-/

namespace RamlDocs

open Template (Params)

/-- Whether a key names a resource. -/
def resourceKey? : Key → Option String
  | .text s => if s.startsWith "/" then some s else none
  | _ => none

/-- The parameters that templates of a resource can use. -/
def Resource.params (uri : String) : Params :=
  [("resourcePath", .text uri), ("resourcePathName", .text (Uri.pathName uri))]

/-- The methods that a completed resource mapping declares. -/
def Resource.methodsOf (scope : Scope) (params : Params) (m : Mapping) : Traced (List Method) := do
  let traits ← Traced.ofExcept (Facet.references (m.get "is"))
  let inherited ← Traced.ofExcept (Facet.securedBy (m.get "securedBy"))
  Traced.mapList (fun e => Method.ofDeclaration scope params traits inherited e.1 e.2)
    (m.filterMap fun e => (httpMethod? e.1).map fun name => (name, e.2))

/-- The resources that a mapping declares by its keys, with their relative URIs. -/
def Resource.childrenOf (m : Mapping) : List (String × Value) :=
  m.filterMap fun e => (resourceKey? e.1).map fun uri => (uri, e.2)

/-- The resource that is declared under a relative URI, to the given depth. -/
def Resource.ofDeclaration (scope : Scope) (parentUri : String) :
    Nat → String × Value → Traced Resource
  | 0, _ => throw .tooDeep
  | depth + 1, (relativeUri, declared) => do
    let uri := parentUri ++ relativeUri
    let params := Resource.params uri
    let (type, m) ← ResourceType.apply scope params ResourceType.chainLimit declared.entries
    let methods ← Resource.methodsOf scope params m
    let children ← Traced.mapList (Resource.ofDeclaration scope uri depth) (Resource.childrenOf m)
    let displayName ← Traced.ofExcept (Facet.text? (m.get "displayName"))
    let description ← Traced.ofExcept (Facet.text? (m.get "description"))
    let uriParameters ← Traced.ofExcept
      (Parameter.all (m.get "uriParameters") (Uri.variableNames relativeUri))
    pure {
      relativeUri
      uri
      displayName
      description
      type
      methods
      children
      uriParameters
      annotations := scope.annotations m }

end RamlDocs
