import RamlDocs.View.Inheritance

/-!
# Tables of bodies

The body of a request may be described in several ways. All of them are candidates for its table,
JSON schemas first, then types, then properties given in place, and the first with rows is taken.
The body of a response is described by its JSON schema alone, next to its declaration as written.
-/

namespace RamlDocs

/-- One way in which a body is described. -/
inductive Body.Candidate where
  | schema (content : Value)
  | reference (name : String)
  | properties (ps : List Property)

/-- The table of a candidate. -/
def Body.Candidate.table (registry : Registry) : Body.Candidate → Logged Table
  | .schema content => Schema.tableOf content
  | .reference name => registry.tableOf name
  | .properties ps => pure (Property.table ps)

/-- The alternatives of a type expression. -/
def alternatives (type : String) : List String := (Text.splitAt '|' type).map Text.trimmed

/-- The schema of a body. -/
def Body.schemaCandidates (b : Body) : List Body.Candidate :=
  if b.schema.isNull then [] else [.schema b.schema]

/-- The types of a body without properties of its own. -/
def Body.typeCandidates (b : Body) : List Body.Candidate :=
  if b.properties.isEmpty then (b.types.flatMap alternatives).map .reference else []

/-- The properties of a body. -/
def Body.propertyCandidates (b : Body) : List Body.Candidate :=
  if b.properties.isEmpty then [] else [.properties b.properties]

/-- All candidates for the table of a request, the better ones first. -/
def Body.candidates (bodies : List Body) : List Body.Candidate :=
  bodies.flatMap schemaCandidates ++ bodies.flatMap typeCandidates ++
    bodies.flatMap propertyCandidates

/-- The first table with rows. -/
def firstWithRows {α : Type} (f : α → Logged Table) : List α → Logged Table
  | [] => pure .empty
  | a :: as => do
    let t ← f a
    if t.rows.isEmpty then firstWithRows f as else pure t

/-- The table of the body of a request. -/
def Body.requestTable (registry : Registry) (bodies : List Body) : Logged Table :=
  firstWithRows (Body.Candidate.table registry) (Body.candidates bodies)

/-- The table of a response, and the declaration of its body as written. -/
structure ResponseSchema where
  table : Table
  type : Option Mapping

/-- The key under which a reader of definitions may leave remarks of its own. -/
def metadataKey : String := "__METADATA__"

/-- A declaration without the remarks of a reader. -/
def stripMetadata (m : Mapping) : Mapping := m.without metadataKey

/-- A response schema after one more body: a later table replaces an earlier one if it has rows,
and a later declaration always. -/
def ResponseSchema.add (s : ResponseSchema) (b : Body) : Logged ResponseSchema := do
  let table ←
    if b.schema.isNull then pure s.table
    else do
      let t ← Schema.tableOf b.schema
      pure (if t.rows.isEmpty then s.table else t)
  pure ⟨table, some (stripMetadata b.raw)⟩

/-- A response schema after more bodies. -/
def ResponseSchema.addAll : ResponseSchema → List Body → Logged ResponseSchema
  | s, [] => pure s
  | s, b :: bodies => do
    let s ← s.add b
    s.addAll bodies

/-- The schema of the responses with a status code. -/
def Response.schemaFor (code : String) (responses : List Response) : Logged ResponseSchema :=
  ResponseSchema.addAll ⟨.empty, none⟩
    ((responses.filter (·.code == code)).flatMap (·.bodies))

/-- An example of what a response holds. -/
structure ResponseExample where
  code : String
  description : String
  response : Value

/-- The example of a body: the single one, or the first of several. -/
def Body.example? (b : Body) : Value :=
  if !b.exampleValue.isNull then b.exampleValue
  else
    match b.namedExamples with
    | [] => .null
    | first :: _ => if first.structured.isNull then Value.ofText? first.text else first.structured

/-- The examples of a response, one for each body; a response without a body has an empty one. -/
def Response.examples (r : Response) : List ResponseExample :=
  let description := r.description.getD ""
  if r.bodies.isEmpty then [⟨r.code, description, .text ""⟩]
  else r.bodies.map fun b => ⟨r.code, description, b.example?⟩

/-- The examples of responses; none at all if there are no responses. -/
def Response.allExamples (responses : List Response) : Option (List ResponseExample) :=
  match responses.flatMap Response.examples with
  | [] => none
  | es => some es

end RamlDocs
