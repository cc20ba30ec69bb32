import Mathlib.Data.List.Basic
import RamlDocs.Proofs.View.Inheritance
import RamlDocs.View.Body

/-!
# Bodies of requests

A request has one table, though each of its bodies may be described in several ways. All of these
descriptions have a table (`Body.tables`): the JSON schemas of the bodies come first, then the types
of the bodies that declare no properties, one alternative after the other, and then the properties.
The first of these tables that has rows is the table of the request, and if none has, the request
has the empty one (`Body.value_requestTable`).

So the kind of a description counts before the place of its body, and a body adds its tables in
three places. If none of them has rows, the body may as well be absent, wherever it stands
(`Body.find?_flatMap_insertIdx`, for each of the three).

Notes are left aside: a body without rows may well leave some, of a schema that cannot be read or of
a type that is not known.
-/

namespace RamlDocs

/-! ## The first table with rows -/

/-- Whether a table has rows. -/
def Table.hasRows (t : Table) : Bool := !t.rows.isEmpty

theorem Table.hasRows_eq_false_iff {t : Table} : t.hasRows = false ↔ t.rows = [] := by
  simp [Table.hasRows]

theorem value_firstWithRows {α : Type} (f : α → Logged Table) (as : List α) :
    (firstWithRows f as).value =
      ((as.map fun a => (f a).value).find? Table.hasRows).getD .empty := by
  induction as with
  | nil => rfl
  | cons a as ih =>
    rw [firstWithRows, List.map_cons, List.find?_cons, Logged.value_bind]
    cases rows : (f a).value.rows.isEmpty with
    | true => simpa [Table.hasRows, rows] using ih
    | false => simp [Table.hasRows, rows]

namespace Body

variable {registry : Registry} {bodies : List Body}

/-! ## The tables of all descriptions -/

/-- The tables of the JSON schemas of bodies. -/
def schemaTables (bodies : List Body) : List Table :=
  (bodies.filter fun b => !b.schema.isNull).map fun b => (Schema.tableOf b.schema).value

/-- The tables of the types of bodies that declare no properties. A type stands for what its parts
between bars refer to, without the blanks around them. -/
def typeTables (registry : Registry) (bodies : List Body) : List Table :=
  ((bodies.filter fun b => b.properties.isEmpty).flatMap (·.types)).flatMap fun type =>
    (Text.splitAt '|' type).map fun part => (registry.tableOf (Text.trimmed part)).value

/-- The tables of the properties of bodies. -/
def propertyTables (bodies : List Body) : List Table :=
  (bodies.filter fun b => !b.properties.isEmpty).map fun b => Property.table b.properties

/-- The tables of all descriptions of bodies, in the order in which they are tried. -/
def tables (registry : Registry) (bodies : List Body) : List Table :=
  schemaTables bodies ++ typeTables registry bodies ++ propertyTables bodies

/-- No description of a body has rows. -/
def Rowless (registry : Registry) (b : Body) : Prop := ∀ t ∈ tables registry [b], t.rows = []

/-! Each of the three lists is put together body by body. -/

theorem schemaTables_eq_flatMap (bodies : List Body) :
    schemaTables bodies = bodies.flatMap fun b => schemaTables [b] := by
  induction bodies with
  | nil => rfl
  | cons b bodies ih =>
    rw [List.flatMap_cons, ← ih]
    cases null : b.schema.isNull <;> simp [schemaTables, null]

theorem typeTables_eq_flatMap (registry : Registry) (bodies : List Body) :
    typeTables registry bodies = bodies.flatMap fun b => typeTables registry [b] := by
  induction bodies with
  | nil => rfl
  | cons b bodies ih =>
    rw [List.flatMap_cons, ← ih]
    cases bare : b.properties.isEmpty <;> simp [typeTables, bare]

theorem propertyTables_eq_flatMap (bodies : List Body) :
    propertyTables bodies = bodies.flatMap fun b => propertyTables [b] := by
  induction bodies with
  | nil => rfl
  | cons b bodies ih =>
    rw [List.flatMap_cons, ← ih]
    cases bare : b.properties.isEmpty <;> simp [propertyTables, bare]

/-- The candidates of a request have these tables, in this order. -/
theorem map_table_candidates (registry : Registry) (bodies : List Body) :
    ((candidates bodies).map fun c => (c.table registry).value) = tables registry bodies := by
  have schemas : ∀ b : Body,
      (b.schemaCandidates.map fun c => (c.table registry).value) = schemaTables [b] := by
    intro b
    cases null : b.schema.isNull <;>
      simp [schemaCandidates, schemaTables, Candidate.table, null]
  have types : ∀ b : Body,
      (b.typeCandidates.map fun c => (c.table registry).value) = typeTables registry [b] := by
    intro b
    cases bare : b.properties.isEmpty <;>
      simp [typeCandidates, typeTables, alternatives, Candidate.table, bare, Function.comp_def,
        List.map_flatMap]
  have properties : ∀ b : Body,
      (b.propertyCandidates.map fun c => (c.table registry).value) = propertyTables [b] := by
    intro b
    cases bare : b.properties.isEmpty <;>
      simp [propertyCandidates, propertyTables, Candidate.table, bare]
  rw [candidates, List.map_append, List.map_append, List.map_flatMap, List.map_flatMap,
    List.map_flatMap, tables, schemaTables_eq_flatMap, typeTables_eq_flatMap,
    propertyTables_eq_flatMap]
  simp only [schemas, types, properties]

theorem value_requestTable (registry : Registry) (bodies : List Body) :
    (requestTable registry bodies).value =
      ((tables registry bodies).find? Table.hasRows).getD .empty := by
  rw [requestTable, value_firstWithRows, map_table_candidates]

/-! ## One body more -/

/-- A body that contributes no table with rows leaves the first table with rows where it is. -/
theorem find?_flatMap_insertIdx {f : Body → List Table} {b : Body}
    (rowless : ∀ t ∈ f b, t.rows = []) (bodies : List Body) (i : Nat) :
    ((bodies.insertIdx i b).flatMap f).find? Table.hasRows =
      (bodies.flatMap f).find? Table.hasRows := by
  have none_ : (f b).find? Table.hasRows = none := by
    rw [List.find?_eq_none]
    intro t mem
    rw [Table.hasRows_eq_false_iff.mpr (rowless t mem)]
    decide
  induction i generalizing bodies with
  | zero => rw [List.insertIdx_zero, List.flatMap_cons, List.find?_append, none_, Option.none_or]
  | succ i ih =>
    cases bodies with
    | nil => rfl
    | cons c bodies =>
      rw [List.insertIdx_succ_cons, List.flatMap_cons, List.flatMap_cons, List.find?_append,
        List.find?_append, ih]

theorem find?_tables_insertIdx {b : Body} (rowless : Rowless registry b) (bodies : List Body)
    (i : Nat) :
    (tables registry (bodies.insertIdx i b)).find? Table.hasRows =
      (tables registry bodies).find? Table.hasRows := by
  have parts : (∀ t ∈ schemaTables [b], t.rows = []) ∧
      (∀ t ∈ typeTables registry [b], t.rows = []) ∧
      ∀ t ∈ propertyTables [b], t.rows = [] := by
    simpa only [Rowless, tables, List.forall_mem_append, and_assoc] using rowless
  obtain ⟨schemas, types, properties⟩ := parts
  simp only [tables, List.find?_append]
  rw [schemaTables_eq_flatMap, typeTables_eq_flatMap, propertyTables_eq_flatMap,
    find?_flatMap_insertIdx schemas, find?_flatMap_insertIdx types,
    find?_flatMap_insertIdx properties, ← schemaTables_eq_flatMap, ← typeTables_eq_flatMap,
    ← propertyTables_eq_flatMap]

/-- The table of a request is the first with rows of all its descriptions, and the empty one if
there is none. A body without rows changes nothing, wherever it is put in. -/
theorem requestTable_eq_first (registry : Registry) (bodies : List Body) :
    (requestTable registry bodies).value =
        ((tables registry bodies).find? Table.hasRows).getD .empty ∧
      ∀ (i : Nat) (b : Body), Rowless registry b →
        (requestTable registry (bodies.insertIdx i b)).value =
          (requestTable registry bodies).value := by
  refine ⟨value_requestTable registry bodies, fun i b rowless => ?_⟩
  rw [value_requestTable, value_requestTable, find?_tables_insertIdx rowless]

/-- A type with a property, and a type that inherits from itself. -/
def petTypes : Registry where
  libraries := []
  types := [{ name := "Pet", properties := [{ name := "id" }] },
    { name := "Loop", parents := ["Loop"] }]

/-- A body with a schema that cannot be read, and with a type that is not known and one that comes
to nothing as alternatives. -/
def vainBody : Body where
  mediaType := "text/xml"
  schema := .text "\x7b"
  types := ["Ghost | Loop"]

/-- A body of which the first alternative with rows is a pet. -/
def petBody : Body where
  mediaType := "application/json"
  types := ["Ghost", "nil | Pet"]

theorem tableOf_loop : (petTypes.tableOf "Loop").value = .empty := by
  have found : petTypes.find? "Loop" = some (none, petTypes.types[1]) := rfl
  have met : (petTypes.tableAfter ["Loop"] "Loop").value = .empty :=
    Registry.tableAfter_of_met found List.mem_cons_self
  rw [Registry.tableOf, Registry.tableAfter_of_new found List.not_mem_nil]
  change Table.ofRows ((petTypes.tableAfter ["Loop"] "Loop").value.rows ++ [] ++ []) = _
  rw [met]
  rfl

theorem tableOf_pet :
    (petTypes.tableOf "Pet").value = .ofRows [Property.row { name := "id" }] := by
  have found : petTypes.find? "Pet" = some (none, petTypes.types[0]) := rfl
  rw [Registry.tableOf, Registry.tableAfter_of_new found List.not_mem_nil]
  rfl

/-- The references of a pet body are tried one after the other. -/
theorem requestTable_petBody :
    (requestTable petTypes [petBody]).value = .ofRows [Property.row { name := "id" }] := by
  have ghost : (petTypes.tableOf "Ghost").value = .empty :=
    Registry.tableAfter_of_unresolved rfl
  have nil_ : (petTypes.tableOf "nil").value = .empty :=
    Registry.tableAfter_of_unresolved rfl
  have all : tables petTypes [petBody] = [(petTypes.tableOf "Ghost").value,
      (petTypes.tableOf "nil").value, (petTypes.tableOf "Pet").value] := rfl
  rw [value_requestTable, all, ghost, nil_, tableOf_pet]
  rfl

theorem rowless_vainBody : Rowless petTypes vainBody := by
  have ghost : (petTypes.tableOf "Ghost").value = .empty :=
    Registry.tableAfter_of_unresolved rfl
  have all : tables petTypes [vainBody] =
      [.empty, (petTypes.tableOf "Ghost").value, (petTypes.tableOf "Loop").value] := rfl
  intro t mem
  rw [all, ghost, tableOf_loop] at mem
  simp only [List.mem_cons, List.not_mem_nil, or_false, or_self] at mem
  rw [mem]
  rfl

theorem requestTable_petBody_vainBody :
    Rowless petTypes vainBody ∧
      (requestTable petTypes ([petBody].insertIdx 0 vainBody)).value =
        (requestTable petTypes [petBody]).value ∧
      (requestTable petTypes [petBody]).value = .ofRows [Property.row { name := "id" }] :=
  ⟨rowless_vainBody, (requestTable_eq_first petTypes [petBody]).2 0 vainBody rowless_vainBody,
    requestTable_petBody⟩

end Body

end RamlDocs
