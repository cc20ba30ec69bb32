import RamlDocs.Proofs.Value.Mapping
import RamlDocs.Proofs.View.Inheritance
import RamlDocs.Proofs.View.Walk

/-!
# Headers follow the rows

A header shows a column if and only if some row below it has a value there. The law holds of every
table of a view, also of the tables nested in its rows at any depth (`headerExact_of_document`).

The invariant is `Table.Exact`: the law for a table and everything within it. Tables are made from
rows by one function, so it is enough that the tables nested in the rows have it
(`Table.exact_ofRows`); each maker of tables is then one lemma.
-/

namespace RamlDocs

/-! ## Columns -/

/-- The columns that a table may show or leave out. -/
inductive Column where
  | name
  | type
  | description
  | exampleValue
  | defaultValue
  | minLength
  | maxLength
  | required
  deriving DecidableEq, Repr

/-- Whether a header shows a column. -/
def Header.shows (h : Header) : Column → Bool
  | .name => h.name
  | .type => h.type
  | .description => h.description
  | .exampleValue => h.exampleValue
  | .defaultValue => h.defaultValue
  | .minLength => h.minLength
  | .maxLength => h.maxLength
  | .required => h.required

/-- What a row has in a column, null for nothing. -/
def Row.cell (r : Row) : Column → Value
  | .name => .text r.name
  | .type => r.type
  | .description => .ofText? r.description
  | .exampleValue => r.exampleValue
  | .defaultValue => r.defaultValue
  | .minLength => .ofInt? r.minLength
  | .maxLength => .ofInt? r.maxLength
  | .required => .ofBool? r.isRequired

@[simp] theorem Value.ofText?_eq_null_iff (s : Option String) :
    Value.ofText? s = .null ↔ s = none := by
  cases s <;> simp [Value.ofText?]

@[simp] theorem Value.ofInt?_eq_null_iff (n : Option Int) :
    Value.ofInt? n = .null ↔ n = none := by
  cases n <;> simp [Value.ofInt?]

@[simp] theorem Value.ofBool?_eq_null_iff (b : Option Bool) :
    Value.ofBool? b = .null ↔ b = none := by
  cases b <;> simp [Value.ofBool?]

/-- A header shows a column if and only if some row has a value there. -/
def Table.HeaderExact (t : Table) : Prop :=
  ∀ c, t.header.shows c = true ↔ ∃ r ∈ t.rows, r.cell c ≠ .null

theorem Table.headerExact_ofRows (rows : List Row) : (Table.ofRows rows).HeaderExact := by
  have value_iff : ∀ f : Row → Value,
      (rows.any fun r => !(f r).isNull) = true ↔ ∃ r ∈ rows, f r ≠ .null := by
    intro f
    simp [List.any_eq_true, ← Bool.not_eq_true, Value.isNull_iff]
  intro c
  cases c with
  | name => cases rows <;> simp [ofRows, headerOf, Header.shows, Row.cell]
  | type => exact value_iff (·.type)
  | exampleValue => exact value_iff (·.exampleValue)
  | defaultValue => exact value_iff (·.defaultValue)
  | description | minLength | maxLength | required =>
    simp [ofRows, headerOf, Header.shows, Row.cell, Option.isSome_iff_ne_none]

/-! ## Tables within tables -/

/-- A table is within another if it is that table or nested in one of its rows, at any depth. -/
inductive Table.Within (u : Table) : Table → Prop
  | self : Within u u
  | nested {t v : Table} {r : Row} (row : r ∈ t.rows) (below : r.nested = some v)
      (within : Within u v) : Within u t

/-- The headers of a table and of all tables within it follow the rows. -/
def Table.Exact (t : Table) : Prop := ∀ u : Table, u.Within t → u.HeaderExact

namespace Table

theorem Exact.of_nested {t v : Table} {r : Row} (h : t.Exact) (row : r ∈ t.rows)
    (below : r.nested = some v) : v.Exact :=
  fun u within => h u (.nested row below within)

theorem exact_ofRows {rows : List Row} (nested : ∀ r ∈ rows, ∀ v, r.nested = some v → v.Exact) :
    (ofRows rows).Exact := by
  intro u within
  cases within with
  | self => exact headerExact_ofRows rows
  | nested row below within => exact nested _ row _ below u within

/-- Rows without nested tables. -/
theorem exact_ofRows_of_flat {rows : List Row} (flat : ∀ r ∈ rows, r.nested = none) :
    (ofRows rows).Exact := by
  apply exact_ofRows
  intro r row v below
  rw [flat r row] at below
  cases below

theorem exact_empty : empty.Exact := by
  rw [empty_eq_ofRows]
  exact exact_ofRows_of_flat (by simp)

end Table

/-! ## The makers of tables -/

theorem Property.exact_table (ps : List Property) : (Property.table ps).Exact := by
  apply Table.exact_ofRows_of_flat
  intro r row
  obtain ⟨p, _, rfl⟩ := List.mem_map.mp row
  rfl

theorem Parameter.exact_uriTable (render : Option String → Option String) (ps : List Parameter) :
    (Parameter.uriTable render ps).Exact := by
  apply Table.exact_ofRows_of_flat
  intro r row
  obtain ⟨p, _, rfl⟩ := List.mem_map.mp row
  rfl

theorem Parameter.exact_queryTable (render : Option String → Option String)
    (ps : List Parameter) : (Parameter.queryTable render ps).Exact := by
  apply Table.exact_ofRows_of_flat
  intro r row
  obtain ⟨p, _, rfl⟩ := List.mem_map.mp row
  rfl

/-- The row of a property of a schema nests the table of the property or none. -/
theorem Schema.exact_table (schema : Value) : (Schema.table schema).Exact := by
  fun_induction Schema.table schema with
  | case1 => exact Table.exact_empty
  | case2 schema properties required _ ih =>
    apply Table.exact_ofRows
    intro r row v below
    obtain ⟨e, _, rfl⟩ := List.mem_map.mp row
    simp only [Schema.row] at below
    split at below
    · cases below
      exact ih e
    · cases below

theorem Schema.exact_tableOf (content : Value) : (Schema.tableOf content).value.Exact := by
  unfold Schema.tableOf
  split
  · exact Schema.exact_table _
  · exact Schema.exact_table _
  · split
    · exact Schema.exact_table _
    · exact Table.exact_empty
  · exact Table.exact_empty

theorem TypeDecl.exact_ownTable (t : TypeDecl) : t.ownTable.value.Exact := by
  unfold TypeDecl.ownTable
  split
  · exact Property.exact_table _
  · split
    · exact Table.exact_empty
    · exact Schema.exact_tableOf _

/-- An inherited table has only rows of tables that are exact. -/
theorem Registry.exact_tableAfter (registry : Registry) (seen : List String)
    (reference : String) : (registry.tableAfter seen reference).value.Exact := by
  induction seen, reference using registry.walk_induction with
  | unresolved seen reference h =>
    rw [Registry.tableAfter_of_unresolved h]
    exact Table.exact_empty
  | met seen reference a h met =>
    rw [Registry.tableAfter_of_met h met]
    exact Table.exact_empty
  | new seen reference a h new ih =>
    rw [Registry.tableAfter_of_new h new]
    apply Table.exact_ofRows
    intro r row v below
    rcases List.mem_append.mp row with inherited | own
    · obtain ⟨p, hp, row⟩ := List.mem_flatMap.mp inherited
      exact (ih p hp).of_nested row below
    · rw [← TypeDecl.rows_ownTable] at own
      exact a.2.exact_ownTable.of_nested own below

theorem Body.Candidate.exact_table (registry : Registry) (c : Body.Candidate) :
    (c.table registry).value.Exact := by
  cases c with
  | schema content => exact Schema.exact_tableOf content
  | reference name => exact registry.exact_tableAfter [] name
  | properties ps => exact Property.exact_table ps

theorem exact_firstWithRows {α : Type} {f : α → Logged Table} (h : ∀ a, (f a).value.Exact)
    (as : List α) : (firstWithRows f as).value.Exact := by
  induction as with
  | nil => exact Table.exact_empty
  | cons a as ih =>
    simp only [firstWithRows, Logged.value_bind]
    split
    · exact ih
    · exact h a

theorem Body.exact_requestTable (registry : Registry) (bodies : List Body) :
    (Body.requestTable registry bodies).value.Exact :=
  exact_firstWithRows (Body.Candidate.exact_table registry) _

/-- One more body replaces the table of a response by that of its schema or leaves it. -/
theorem ResponseSchema.exact_add {s : ResponseSchema} (h : s.table.Exact) (b : Body) :
    (s.add b).value.table.Exact := by
  unfold ResponseSchema.add
  split
  · exact h
  · simp only [Logged.value_bind, Logged.value_pure]
    split
    · exact h
    · exact Schema.exact_tableOf _

theorem ResponseSchema.exact_addAll (bodies : List Body) :
    ∀ {s : ResponseSchema}, s.table.Exact → (s.addAll bodies).value.table.Exact := by
  induction bodies with
  | nil => exact fun h => h
  | cons b bodies ih => exact fun h => ih (ResponseSchema.exact_add h b)

theorem Response.exact_schemaFor (code : String) (responses : List Response) :
    (Response.schemaFor code responses).value.table.Exact :=
  ResponseSchema.exact_addAll _ Table.exact_empty

/-! ## The tables of a view -/

/-- The tables of an endpoint. -/
def Endpoint.tables (e : Endpoint) : List Table :=
  [e.uriParameters, e.queryParameters, e.requestBody, e.responseBody.table]

/-- The tables of a view that are not nested in another. -/
def Document.tables (d : Document) : List Table :=
  d.resources.flatMap fun g => g.endpoints.flatMap Endpoint.tables

theorem Method.exact_endpoint (registry : Registry) (settings : Settings) (r : Resource)
    (m : Method) : ∀ t ∈ (m.endpoint registry settings r).value.tables, t.Exact := by
  simp only [Method.endpoint, Logged.value_bind, Logged.value_pure, Endpoint.tables,
    List.forall_mem_cons]
  exact ⟨Parameter.exact_uriTable _ _, Parameter.exact_queryTable _ _,
    Body.exact_requestTable _ _, Response.exact_schemaFor _ _, by simp⟩

/-- The header of every table of a view, and of every table nested in its rows at any depth, shows
a column if and only if some row of that table has a value there. -/
theorem headerExact_of_document {api : Api} {settings : Settings} {d : Document}
    (h : (api.document settings).outcome = .ok d) :
    ∀ t ∈ d.tables, ∀ u : Table, u.Within t → u.HeaderExact := by
  intro t mem
  obtain ⟨g, hg, mem⟩ := List.mem_flatMap.mp mem
  obtain ⟨e, he, mem⟩ := List.mem_flatMap.mp mem
  rw [Api.resources_document h] at hg
  obtain ⟨r, _, rfl⟩ := List.mem_map.mp hg
  have endpoints : e ∈ (r.endpoints (Registry.ofApi api) settings).value := he
  rw [Resource.endpoints_eq_walk] at endpoints
  obtain ⟨⟨s, m⟩, _, rfl⟩ := List.mem_map.mp endpoints
  exact Method.exact_endpoint (Registry.ofApi api) settings s m t mem

/-- A method with a parameter, and a response whose schema nests one property in another. -/
def usersApi : Api where
  resources := [{
    relativeUri := "/users"
    uri := "/users"
    methods := [{
      name := "get"
      queryParameters := [{ name := "limit", types := ["integer"], minLength := some 1 }]
      responses := [{
        code := "200"
        bodies := [{
          mediaType := "application/json"
          schema := .record [("properties", .record [("address", .record [("properties",
            .record [("city", .record [("required", .bool true)])])])])] }] }] }] }]
  raw := some []

theorem headerExact_usersApi :
    (usersApi.document {}).outcome = .ok (usersApi.documentFor {} []).value ∧
      ∀ t ∈ (usersApi.documentFor {} []).value.tables, ∀ u : Table, u.Within t → u.HeaderExact :=
  have h : (usersApi.document {}).outcome = .ok (usersApi.documentFor {} []).value := rfl
  ⟨h, headerExact_of_document h⟩

end RamlDocs
