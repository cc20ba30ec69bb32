import RamlDocs.View.Body
import RamlDocs.View.Settings

/-!
# Endpoints

One endpoint for each method of a resource, and after them the endpoints of the resources below
it. Endpoints of one resource tree are thus listed in the order of a walk from the root.
-/

namespace RamlDocs

/-- One method of one resource. -/
structure Endpoint where
  uri : String
  method : String
  securedBy : String
  description : Option String
  uriParameters : Table
  queryParameters : Table
  requestBody : Table
  responseBody : ResponseSchema
  responseExample : Option (List ResponseExample)
  annotations : List Value

/-- An annotation by its name, with its type if that is known. -/
def Annotation.toValue (a : Annotation) : Value :=
  .record [(a.name, .record (("value", a.value) :: (a.type.map fun t => ("type", .text t)).toList))]

/-- The table of URI parameters. -/
def Parameter.uriTable (render : Option String → Option String) (ps : List Parameter) : Table :=
  .ofRows (ps.map fun p =>
    { name := p.name, type := Value.ofText? p.types.head?, description := render p.description })

/-- The table of query parameters. -/
def Parameter.queryTable (render : Option String → Option String) (ps : List Parameter) : Table :=
  .ofRows (ps.map fun p =>
    { name := p.name
      type := Value.ofText? p.types.head?
      description := render p.description
      isRequired := some p.required
      exampleValue := p.exampleValue
      defaultValue := p.defaultValue
      minLength := p.minLength
      maxLength := p.maxLength
      repeats := p.repeats })

/-- The first scheme that is named. -/
def firstScheme? (names : List (Option String)) : Option String :=
  (names.filterMap id).find? (· != "")

/-- The endpoint of a method. -/
def Method.endpoint (registry : Registry) (settings : Settings) (r : Resource) (m : Method) :
    Logged Endpoint := do
  Logged.note (.endpoint r.uri m.name)
  let requestBody ← Body.requestTable registry m.bodies
  let responseBody ← Response.schemaFor settings.responseCode m.responses
  pure {
    uri := r.uri
    method := Text.lowercased m.name
    securedBy := (firstScheme? m.securedBy).getD ""
    description := settings.render m.description
    uriParameters := Parameter.uriTable settings.render r.uriParameters
    queryParameters := Parameter.queryTable settings.render m.queryParameters
    requestBody
    responseBody
    responseExample := Response.allExamples m.responses
    annotations := m.annotations.map Annotation.toValue }

mutual

/-- The endpoints of a resource and of the resources below it. -/
def Resource.endpoints (registry : Registry) (settings : Settings) :
    Resource → Logged (List Endpoint)
  | ⟨relativeUri, uri, displayName, description, type, methods, children, uriParameters,
      annotations⟩ => do
    let r : Resource := ⟨relativeUri, uri, displayName, description, type, methods, children,
      uriParameters, annotations⟩
    let own ← Logged.mapList (Method.endpoint registry settings r) methods
    let below ← endpointsOf registry settings children
    pure (own ++ below)

/-- The endpoints of several resources. -/
def endpointsOf (registry : Registry) (settings : Settings) :
    List Resource → Logged (List Endpoint)
  | [] => pure []
  | r :: rs => do
    let first ← r.endpoints registry settings
    let rest ← endpointsOf registry settings rs
    pure (first ++ rest)

end

end RamlDocs
