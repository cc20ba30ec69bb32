import RamlDocs.Value.Basic

/-!
# Definitions

The parts of an API definition once everything that is written elsewhere has been put in its
place: includes, libraries, traits and resource types. Missing facets are null, absent or empty.
Where a part is also shown as it was written, `raw` keeps its mapping.
-/

namespace RamlDocs

/-- A parameter of a URI, of the base URI or of a query. -/
structure Parameter where
  name : String
  types : List String := []
  description : Option String := none
  required : Bool := true
  exampleValue : Value := .null
  defaultValue : Value := .null
  minLength : Option Int := none
  maxLength : Option Int := none
  repeats : Option Bool := none
  raw : Mapping := []

/-- A property of an object type or of a body. -/
structure Property where
  name : String
  types : List String := []
  description : Option String := none
  required : Bool := true
  raw : Mapping := []

/-- A named type: the types it inherits from and either properties or a JSON schema. -/
structure TypeDecl where
  name : String
  parents : List String := []
  properties : List Property := []
  schema : Value := .null
  raw : Value := .null

/-- A library of types, known by the name that the definition gives it. -/
structure Library where
  name : String
  types : List TypeDecl := []
  raw : Mapping := []

/-- One of several examples of a body, as text and, if it is a container, as a value. -/
structure NamedExample where
  name : String
  text : Option String := none
  structured : Value := .null

/-- The body of a request or response in one media type. -/
structure Body where
  mediaType : String
  types : List String := []
  properties : List Property := []
  schema : Value := .null
  exampleValue : Value := .null
  namedExamples : List NamedExample := []
  raw : Mapping := []

/-- A response of a method. -/
structure Response where
  code : String
  description : Option String := none
  bodies : List Body := []

/-- An annotation with the type it was declared with. -/
structure Annotation where
  name : String
  value : Value := .null
  type : Option String := none

/-- A method of a resource. -/
structure Method where
  name : String
  description : Option String := none
  securedBy : List (Option String) := []
  queryParameters : List Parameter := []
  bodies : List Body := []
  responses : List Response := []
  annotations : List Annotation := []

/-- A resource with its methods and the resources below it. -/
structure Resource where
  relativeUri : String
  uri : String
  displayName : Option String := none
  description : Option String := none
  type : Option String := none
  methods : List Method := []
  children : List Resource := []
  uriParameters : List Parameter := []
  annotations : List Annotation := []

instance : Inhabited Resource := ⟨{ relativeUri := "", uri := "" }⟩

/-- A way to secure an API. -/
structure SecurityScheme where
  name : String
  raw : Mapping := []

/-- A page of user documentation. -/
structure DocumentationPage where
  title : String
  content : Option String := none

/-- An API definition. -/
structure Api where
  title : String := ""
  version : Option String := none
  language : String := "RAML10"
  baseUri : Option String := none
  baseUriParameters : List Parameter := []
  protocols : List String := []
  description : Option String := none
  documentation : List DocumentationPage := []
  securedBy : List (Option String) := []
  securitySchemes : List SecurityScheme := []
  resources : List Resource := []
  libraries : List (String × Library) := []
  types : List TypeDecl := []
  raw : Option Mapping := none

end RamlDocs
