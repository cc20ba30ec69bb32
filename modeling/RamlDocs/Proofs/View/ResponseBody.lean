import Mathlib.Data.List.Basic
import RamlDocs.Proofs.View.SchemaWalk
import RamlDocs.View.Body

/-!
# Bodies of responses

What a view shows of the responses with a status code is a table and a declaration. Both are kept
while the bodies of these responses are gone through, but not by the same rule: a table is replaced
by one with rows only (`ResponseSchema.table_addAll`), the declaration by that of every body
(`ResponseSchema.type_addAll`).

So a table with rows is that of the last body that has rows, and the declaration is that of the last
body (`Response.exists_shownBy`). They belong together if the two are the same body. If another
media type without rows comes later, they describe different bodies
(`Response.not_together_describedFirst`).
-/

namespace RamlDocs

/-- The table of the JSON schema of a body, empty if it has none. -/
def Body.schemaTable (b : Body) : Table := (Schema.tableOf b.schema).value

theorem Body.schema_ne_null {b : Body} (h : b.schemaTable.rows ≠ []) : b.schema ≠ .null := by
  intro null
  apply h
  rw [Body.schemaTable, null]
  rfl

namespace ResponseSchema

/-! ## One body after another -/

theorem value_add (s : ResponseSchema) (b : Body) :
    (s.add b).value =
      ⟨if b.schemaTable.rows.isEmpty then s.table else b.schemaTable, some (stripMetadata b.raw)⟩ := by
  unfold add
  split
  next null =>
    rw [Body.schemaTable, (Value.isNull_iff b.schema).mp null]
    rfl
  next => rfl

/-- The table is that of the last body with rows, or the one from before if there is none. -/
theorem table_addAll (bodies : List Body) (s : ResponseSchema) :
    ((s.addAll bodies).value.table = s.table ∧ ∀ b ∈ bodies, b.schemaTable.rows = []) ∨
      ∃ b after, b :: after <:+ bodies ∧ b.schemaTable.rows ≠ [] ∧
        (s.addAll bodies).value.table = b.schemaTable ∧
          ∀ a ∈ after, a.schemaTable.rows = [] := by
  induction bodies generalizing s with
  | nil => exact .inl ⟨rfl, by simp⟩
  | cons c bodies ih =>
    rcases ih (s.add c).value with ⟨same, none_⟩ | ⟨b, after, last, rows, table, none_⟩
    · have table : (s.addAll (c :: bodies)).value.table = (s.add c).value.table := same
      rw [value_add] at table
      by_cases rows : c.schemaTable.rows = []
      · refine .inl ⟨?_, List.forall_mem_cons.mpr ⟨rows, none_⟩⟩
        simpa [rows] using table
      · refine .inr ⟨c, bodies, List.suffix_rfl, rows, ?_, none_⟩
        simpa [rows] using table
    · exact .inr ⟨b, after, last.trans (List.suffix_cons c bodies), rows, table, none_⟩

/-- The declaration is that of the last body. -/
theorem type_addAll (bodies : List Body) (s : ResponseSchema) :
    (s.addAll bodies).value.type =
      (bodies.getLast?.map fun b => stripMetadata b.raw).or s.type := by
  induction bodies generalizing s with
  | nil => rfl
  | cons c bodies ih =>
    have type : (s.addAll (c :: bodies)).value.type = ((s.add c).value.addAll bodies).value.type :=
      rfl
    rw [type, ih, value_add, List.getLast?_cons]
    cases bodies.getLast? <;> rfl

end ResponseSchema

namespace Response

/-! ## The responses with a status code -/

/-- The bodies of the responses with a status code, in order. -/
def bodiesFor (code : String) (responses : List Response) : List Body :=
  (responses.filter (·.code == code)).flatMap (·.bodies)

/-- A table and a declaration belong together if they are the table and the declaration of one body
of a response with the status code. -/
def Together (code : String) (responses : List Response) (s : ResponseSchema) : Prop :=
  ∃ r ∈ responses, r.code = code ∧ ∃ b ∈ r.bodies, b.schema ≠ .null ∧
    (Schema.tableOf b.schema).value.rows = s.table.rows ∧ s.type = some (stripMetadata b.raw)

variable {code : String} {responses : List Response}

theorem mem_bodiesFor_iff {b : Body} :
    b ∈ bodiesFor code responses ↔ ∃ r ∈ responses, r.code = code ∧ b ∈ r.bodies := by
  simp [bodiesFor, and_assoc]

/-- One body with rows is enough for rows. -/
theorem rows_schemaFor_ne_nil {b : Body} (mem : b ∈ bodiesFor code responses)
    (own : b.schemaTable.rows ≠ []) : (schemaFor code responses).value.table.rows ≠ [] := by
  rcases ResponseSchema.table_addAll (bodiesFor code responses) ⟨.empty, none⟩ with
    ⟨-, none_⟩ | ⟨c, after, -, rows, table, -⟩
  · exact absurd (none_ b mem) own
  · exact fun none_ => rows ((congrArg Table.rows table).symm.trans none_)

theorem type_schemaFor {b : Body} {after : List Body}
    (last : b :: after <:+ bodiesFor code responses) :
    (schemaFor code responses).value.type =
      some (stripMetadata (after.getLast?.getD b).raw) := by
  have type : (schemaFor code responses).value.type =
      ((bodiesFor code responses).getLast?.map fun b => stripMetadata b.raw).or none :=
    ResponseSchema.type_addAll _ _
  obtain ⟨before, bodies⟩ := last
  rw [type, ← bodies, List.getLast?_append, List.getLast?_cons]
  rfl

/-- What is shown of responses comes from the body `b` and the bodies `after` it, the last ones of
the responses with the status code. -/
structure ShownBy (code : String) (responses : List Response) (s : ResponseSchema) (b : Body)
    (after : List Body) : Prop where
  ending : b :: after <:+ bodiesFor code responses
  /-- The table is that of the first. -/
  table : s.table = (Schema.tableOf b.schema).value
  /-- The others have no rows. -/
  rowless : ∀ a ∈ after, (Schema.tableOf a.schema).value.rows = []
  /-- If there are no others, table and declaration belong together. -/
  together : after = [] → Together code responses s
  /-- If there are, the declaration is that of the last. -/
  type : s.type = some (stripMetadata (after.getLast?.getD b).raw)

/-- A table with rows is shown by a body after which no body has rows. -/
theorem exists_shownBy (rows : (schemaFor code responses).value.table.rows ≠ []) :
    ∃ b after, ShownBy code responses (schemaFor code responses).value b after := by
  rcases ResponseSchema.table_addAll (bodiesFor code responses) ⟨.empty, none⟩ with
    ⟨none_, -⟩ | ⟨b, after, ending, own, table, rowless⟩
  · exact absurd (congrArg Table.rows none_) rows
  · have type := type_schemaFor ending
    refine ⟨b, after, ending, table, rowless, ?_, type⟩
    rintro rfl
    obtain ⟨r, mem, named, held⟩ := mem_bodiesFor_iff.mp (ending.subset List.mem_cons_self)
    exact ⟨r, mem, named, b, held, Body.schema_ne_null own, congrArg Table.rows table.symm, type⟩

/-- A body with a schema of objects. -/
def describedBody : Body where
  mediaType := "application/json"
  schema := .record [("properties", .record [("id", .record [("type", .text "integer")])])]
  raw := [(.text "name", .text "application/json"), (.text metadataKey, .record [])]

/-- A body without a schema. -/
def plainBody : Body where
  mediaType := "text/plain"
  raw := [(.text "name", .text "text/plain")]

theorem rows_describedBody : describedBody.schemaTable.rows ≠ [] := by
  have step : describedBody.schemaTable = _ :=
    Schema.table_of_properties (s := describedBody.schema) rfl
  rw [step]
  exact List.cons_ne_nil _ _

/-- Responses with one status code, whose last body has a schema, and one with another. -/
def describedLast : List Response :=
  [{ code := "200", bodies := [plainBody] }, { code := "404", bodies := [plainBody] },
    { code := "200", bodies := [describedBody, plainBody, describedBody] }]

theorem exists_shownBy_describedLast :
    (schemaFor "200" describedLast).value.table.rows ≠ [] ∧
      ∃ b after, ShownBy "200" describedLast (schemaFor "200" describedLast).value b after := by
  have held : describedBody ∈ bodiesFor "200" describedLast :=
    mem_bodiesFor_iff.mpr ⟨describedLast[2], by simp [describedLast], rfl, List.mem_cons_self⟩
  have rows := rows_schemaFor_ne_nil held rows_describedBody
  exact ⟨rows, exists_shownBy rows⟩

/-- A response with two media types, the first of which has a schema. -/
def describedFirst : List Response := [{ code := "200", bodies := [describedBody, plainBody] }]

/-- The table is that of one body, the declaration that of another. -/
theorem not_together_describedFirst :
    (schemaFor "200" describedFirst).value.table.rows ≠ [] ∧
      ¬ Together "200" describedFirst (schemaFor "200" describedFirst).value := by
  have whole : [describedBody, plainBody] <:+ bodiesFor "200" describedFirst := List.suffix_rfl
  have shown : (schemaFor "200" describedFirst).value.type = some (stripMetadata plainBody.raw) :=
    type_schemaFor whole
  refine ⟨rows_schemaFor_ne_nil (whole.subset List.mem_cons_self) rows_describedBody, ?_⟩
  rintro ⟨r, mem, -, b, held, schema, -, type⟩
  obtain rfl := List.mem_singleton.mp mem
  rcases List.mem_pair.mp held with rfl | rfl
  · have same := Option.some.inj (shown.symm.trans type)
    have named := congrArg (fun m => (Mapping.get m "name").text?) same
    revert named
    decide
  · exact schema rfl

end Response

end RamlDocs
