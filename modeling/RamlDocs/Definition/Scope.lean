import RamlDocs.Definition.TypeDecl

/-!
# What a definition can refer to

The root of the definition and the libraries it uses. A name with a point is looked up in the
library whose alias stands before the first point, any other name in the root.
-/

namespace RamlDocs

/-- The root of a definition and its libraries, as written, and the media type of bodies that do
not name one. -/
structure Scope where
  root : Mapping
  libraries : List (String × Mapping)
  mediaType : String

namespace Scope

/-- What a definition with the given root and libraries can refer to. -/
def ofRoot (root : Mapping) (libraries : List (String × Mapping)) : Except Fault Scope :=
  (Facet.mediaType (root.get "mediaType")).map fun mediaType => ⟨root, libraries, mediaType⟩

/-- The alias before the first point of a name, and the name after it. -/
def splitName (name : String) : Option String × String :=
  match name.toList.span (· != '.') with
  | (owner, _ :: local_) => (some (String.ofList owner), String.ofList local_)
  | (_, []) => (none, name)

/-- The mapping in which a name is declared, and the name there. -/
def source? (scope : Scope) (name : String) : Option (Mapping × String) :=
  match splitName name with
  | (none, name) => some (scope.root, name)
  | (some owner, name) => (scope.libraries.lookup owner).map fun m => (m, name)

/-- What is declared under a name, null if nothing is. -/
def lookup (scope : Scope) (kind name : String) : Value :=
  match scope.source? name with
  | none => .null
  | some (m, name) => Mapping.get (Mapping.get m kind).entries name

/-- The JSON schema behind the name of a type. -/
def schema? (scope : Scope) (name : String) : Option String :=
  match scope.source? name with
  | none => none
  | some (m, name) =>
    Facet.jsonText?
      (match Mapping.get (TypeDecl.declarations m) name with
      | .map decl => Facet.declaredType decl
      | v => v)

/-- The type that annotations of a name are declared with. -/
def annotationType? (scope : Scope) (name : String) : Option String :=
  match scope.lookup "annotationTypes" name with
  | .text s => some s
  | .map decl =>
    match Facet.typeList (Mapping.get decl "type") with
    | type :: _ => some type
    | [] => if Mapping.has decl "properties" then some "object" else none
  | _ => none

/-- The name of an annotation, from the key in parentheses that holds it. -/
def annotationName? : Key → Option String
  | .text s =>
    match s.toList with
    | '(' :: cs => if cs.getLast? == some ')' then some (String.ofList cs.dropLast) else none
    | _ => none
  | _ => none

/-- The annotations of a mapping. -/
def annotations (scope : Scope) (m : Mapping) : List Annotation :=
  m.filterMap fun e => (annotationName? e.1).map fun name =>
    { name, value := e.2, type := scope.annotationType? name }

end Scope

end RamlDocs
