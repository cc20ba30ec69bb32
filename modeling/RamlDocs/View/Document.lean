import RamlDocs.Definition.Api
import RamlDocs.View.Endpoint

/-!
# The view of a definition

What documentation templates show of an API. Resources are grouped by name: of several top-level
resources with the same name only the first is kept. A definition without a root, or with a root
that has no JSON form, is rejected; everything else that is missing is shown empty.
-/

namespace RamlDocs

/-- A top-level resource with the endpoints of its whole tree. -/
structure ResourceGroup where
  uri : String
  name : String
  description : String
  type : String
  endpoints : List Endpoint
  annotations : List Value

/-- A section of user documentation. -/
structure DocumentationSection where
  title : String
  content : Option String

/-- The view of an API definition. -/
structure Document where
  title : String
  language : String
  version : String
  protocol : String
  baseUri : String
  baseUriParameters : List Mapping
  description : String
  documentation : List DocumentationSection
  securitySchemes : List Mapping
  securedBy : Mapping
  resources : List ResourceGroup
  types : Mapping
  typeNames : List String
  schemas : List Value

/-- The name under which a resource is shown: what it says itself, else its URI. -/
def Resource.shownName (r : Resource) : String :=
  match r.displayName with
  | some s => if s == "" then Text.capitalized (Text.withoutFirst '/' r.uri) else s
  | none => Text.capitalized (Text.withoutFirst '/' r.uri)

/-- A resource as a group. -/
def Resource.group (registry : Registry) (settings : Settings) (r : Resource) :
    Logged ResourceGroup := do
  let endpoints ← r.endpoints registry settings
  pure {
    uri := r.uri
    name := r.shownName
    description := r.description.getD ""
    type := r.type.getD ""
    endpoints
    annotations := r.annotations.map Annotation.toValue }

/-- The groups of resources whose names are not among `taken` nor earlier in the list. -/
def Resource.groupsAfter (registry : Registry) (settings : Settings) :
    List String → List Resource → Logged (List ResourceGroup)
  | _, [] => pure []
  | taken, r :: rs =>
    if taken.contains r.shownName then do
      Logged.note (.nameTaken r.uri r.shownName)
      groupsAfter registry settings taken rs
    else do
      let group ← r.group registry settings
      let rest ← groupsAfter registry settings (r.shownName :: taken) rs
      pure (group :: rest)

/-- The groups of resources, one for each name. -/
def Resource.groups (registry : Registry) (settings : Settings) (rs : List Resource) :
    Logged (List ResourceGroup) :=
  Resource.groupsAfter registry settings [] rs

/-- The base URI with the version in its place. -/
def Api.shownBaseUri (api : Api) (placeholder : String) : String :=
  match api.baseUri, api.version with
  | none, _ => ""
  | some uri, none => uri
  | some uri, some version => if uri == "" then "" else Text.replaced uri placeholder version

/-- The protocols in one line. -/
def Api.protocolLine (api : Api) : String :=
  if api.protocols.isEmpty then "" else "Protocols: " ++ Text.joined ", " api.protocols

/-- The base URI parameters as written. The version is shown by itself. -/
def Api.shownBaseUriParameters (api : Api) : List Mapping :=
  (api.baseUriParameters.filter (·.name != "version")).map (·.raw)

/-- The scheme that secures the whole API, as written. -/
def Api.securingScheme (api : Api) : Mapping :=
  match firstScheme? api.securedBy with
  | none => []
  | some name => ((api.securitySchemes.find? (·.name == name)).map (·.raw)).getD []

/-- The declared types of a root, as written. -/
def shownTypes (root : Mapping) : Mapping := (root.get "types").entries

/-- The names of the entries of a mapping. -/
def entryNames (m : Mapping) : List String := m.map (·.1.display)

/-- A declared schema by its name; none for a text that is no JSON. -/
def shownSchema (name : Key) (declared : Value) : Logged (Option Value) :=
  match declared with
  | .text s =>
    match Json.read s with
    | .ok v => pure (some (.map [(name, v)]))
    | .error _ => do
      Logged.note (.schemaNotJson name.display)
      pure none
  | v => pure (some (.map [(name, v)]))

/-- The declared schemas of a root. -/
def shownSchemas (root : Mapping) : Logged (List Value) := do
  let schemas ← Logged.mapList (fun e => shownSchema e.1 e.2)
    (gatheredEntries (root.get "schemas"))
  pure (schemas.filterMap id)

/-- The root of a definition that can be shown. -/
def Api.root (api : Api) : Except Fault Mapping :=
  match api.raw with
  | none => .error (.rejected .noRoot)
  | some root =>
    match Json.obstacle? false (.map root) with
    | none => .ok root
    | some o => .error (.rejected (.notSerialisable o))

/-- The view of a definition with the given root. -/
def Api.documentFor (api : Api) (settings : Settings) (root : Mapping) : Logged Document := do
  Logged.note (.viewing api.title)
  let resources ← Resource.groups (Registry.ofApi api) settings api.resources
  let schemas ← shownSchemas root
  pure {
    title := api.title
    language := api.language
    version := api.version.getD ""
    protocol := api.protocolLine
    baseUri := api.shownBaseUri settings.versionPlaceholder
    baseUriParameters := api.shownBaseUriParameters
    description := (settings.render api.description).getD ""
    documentation := api.documentation.map fun page =>
      { title := page.title, content := settings.render page.content }
    securitySchemes := api.securitySchemes.map (·.raw)
    securedBy := api.securingScheme
    resources
    types := shownTypes root
    typeNames := entryNames (shownTypes root)
    schemas }

/-- The view of a definition. -/
def Api.document (api : Api) (settings : Settings) : Traced Document := do
  let root ← Traced.ofExcept api.root
  Traced.ofLogged (api.documentFor settings root)

end RamlDocs
