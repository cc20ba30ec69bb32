import RamlDocs.Json.Reader
import RamlDocs.Text.Letter
import RamlDocs.Value.Text

/-!
# Facets

How the value of a facet is read. Reading is lenient: a value of another shape than expected is
turned into text, taken as a list of one, or counts as missing. Only an integer with too many
digits has no text.
-/

namespace RamlDocs.Facet

/-- The text of a facet. A mapping stands for the value it holds under `value`. -/
def text? : Value → Except Fault (Option String)
  | .null => .ok none
  | .map m =>
    match Mapping.get m "value" with
    | .null => .ok none
    | v => v.asText.map some
  | v => v.asText.map some

/-- The integer of a facet, if it can be read as one. -/
def int? : Value → Except Fault (Option Int)
  | .int n => .ok (some n)
  | .float x =>
    match x.magnitude with
    | .infinite => .error .infiniteLength
    | _ => .ok x.truncate?
  | .text s =>
    match Numeral.readInt 10 s with
    | .ok n => .ok (some n)
    | .error _ => .ok none
  | _ => .ok none

/-- The items of a list, any other value but null as its only item. -/
def asList : Value → List Value
  | .null => []
  | .list vs => vs
  | v => [v]

/-- Type expressions: one text or a list of texts, without the blanks around them. -/
def typeList : Value → List String
  | .text s => if Text.isAllBlank s then [] else [Text.trimmed s]
  | .list vs => (vs.filterMap Value.text?).filter (fun s => !Text.isAllBlank s) |>.map Text.trimmed
  | _ => []

/-- Whether a text may be a JSON object or array. -/
def looksLikeJson (s : String) : Bool :=
  match Text.trimLeft s.toList with
  | c :: _ => c == '{' || c == '['
  | [] => false

/-- The JSON object or array that a text spells. -/
def readJson? (s : String) : Option Value :=
  if looksLikeJson s then (Json.read s).toOption else none

/-- The text of a value that may be a JSON object or array. -/
def jsonText? : Value → Option String
  | .text s => if looksLikeJson s then some s else none
  | _ => none

/-- A declaration as a mapping; a type expression by itself declares its type. -/
def declaration : Value → Mapping
  | .text s => [(.text "type", .text s)]
  | .list vs => [(.text "type", .list vs)]
  | v => v.entries

/-- The type of a declaration, which may also be given as its schema. -/
def declaredType (m : Mapping) : Value :=
  (Mapping.get? m "type").getD (Mapping.get m "schema")

/-- A name without the question mark at its end, and whether it had one. -/
def optionalName (k : Key) : Except Fault (String × Bool) :=
  k.asText.map fun s =>
    if s.toList.getLast? == some '?' then (String.ofList s.toList.dropLast, true) else (s, false)

/-- Whether a declaration is required: what it says itself, else what its name says. -/
def isRequired (m : Mapping) (optional : Bool) : Bool :=
  ((Mapping.get m "required").bool?).getD !optional

/-- The references to traits or resource types that one item holds, each with its parameters. -/
def itemReferences : Value → Except Fault (List (String × Mapping))
  | .text s => .ok [(s, [])]
  | .map m => m.mapM fun e => e.1.asText.map fun name => (name, e.2.entries)
  | _ => .ok []

/-- References to traits or resource types, each with its parameters. -/
def references (v : Value) : Except Fault (List (String × Mapping)) :=
  ((asList v).mapM itemReferences).map List.flatten

/-- The names of security schemes that one item of a list holds, at most one: null stands for none
being needed, and a mapping names its scheme by its first key. -/
def itemSchemes : Value → Except Fault (List (Option String))
  | .null => .ok [none]
  | .text s => .ok [some s]
  | .map ((k, _) :: _) => k.asText.map fun name => [some name]
  | _ => .ok []

/-- Names of security schemes. -/
def securedBy (v : Value) : Except Fault (List (Option String)) :=
  ((asList v).mapM itemSchemes).map List.flatten

/-- The media type of bodies that do not name one. -/
def mediaType (v : Value) : Except Fault String :=
  let first :=
    match v with
    | .list (v :: _) => v
    | v => v
  if first.isTruthy then first.asText else .ok "application/json"

/-- Protocols: those that are declared, else the scheme of the base URI. -/
def protocols (v : Value) (baseUri : Option String) : Except Fault (List String) :=
  match v with
  | .text s => .ok [Text.uppercased s]
  | .list vs => vs.mapM fun v => v.asText.map Text.uppercased
  | _ =>
    match BaseUri.scheme (baseUri.getD "") with
    | .error f => .error (.baseUri f)
    | .ok scheme =>
      .ok (if scheme == "http" || scheme == "https" then [Text.uppercased scheme] else [])

/-- The name of the kind of a key. -/
def keyKind : Key → String
  | .moment t => "datetime." ++ t.kind
  | k => k.toValue.kind

/-- Facets that an example may have beside its value. -/
def exampleFacets : List String := ["value", "displayName", "description", "strict"]

/-- Whether a mapping with a value is an example with facets: every key that is no annotation
names one of its facets. -/
def hasExampleFacets : List (Key × Value) → Except Fault Bool
  | [] => .ok true
  | (.text s, _) :: m => do
    let rest ← hasExampleFacets m
    .ok (rest && (s.startsWith "(" || exampleFacets.contains s))
  | (k, _) :: _ => .error (.scalarFacet (keyKind k))

/-- The value of an example that is written with facets. -/
def exampleValue (v : Value) : Except Fault Value :=
  match v with
  | .map m =>
    match Mapping.get? m "value" with
    | none => .ok v
    | some w => (hasExampleFacets m).map fun facets => if facets then w else v
  | v => .ok v

/-- The object or array that a text example spells, else the example as it is. -/
def structuredExample (v : Value) : Value :=
  match v with
  | .text s => (readJson? s).getD v
  | v => v

end RamlDocs.Facet
