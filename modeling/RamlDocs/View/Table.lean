import RamlDocs.Value.Basic

/-!
# Tables of parameters

A table has rows and a header that says which of the optional columns to show: those in which some
row has a value. `Table.ofRows` is the only way tables are made from rows, and `Table.union` joins
the rows of two tables, so headers follow the rows.
-/

namespace RamlDocs

/-- Which columns of a table are shown. -/
structure Header where
  name : Bool := false
  type : Bool := false
  description : Bool := false
  exampleValue : Bool := false
  defaultValue : Bool := false
  minLength : Bool := false
  maxLength : Bool := false
  required : Bool := false
  deriving DecidableEq, Repr, Inhabited

mutual

/-- One parameter or property. A missing value is null or absent. -/
structure Row where
  name : String
  type : Value := .null
  description : Option String := none
  isRequired : Option Bool := none
  exampleValue : Value := .null
  defaultValue : Value := .null
  minLength : Option Int := none
  maxLength : Option Int := none
  repeats : Option Bool := none
  nested : Option Table := none

/-- Rows and the header above them. -/
structure Table where
  header : Header
  rows : List Row

end

namespace Table

/-- The table without rows. -/
def empty : Table := ⟨{}, []⟩

instance : Inhabited Table := ⟨empty⟩

/-- The header of a table with the given rows: a column is shown when a row has a value there. -/
def headerOf (rows : List Row) : Header where
  name := !rows.isEmpty
  type := rows.any fun r => !r.type.isNull
  description := rows.any fun r => r.description.isSome
  exampleValue := rows.any fun r => !r.exampleValue.isNull
  defaultValue := rows.any fun r => !r.defaultValue.isNull
  minLength := rows.any fun r => r.minLength.isSome
  maxLength := rows.any fun r => r.maxLength.isSome
  required := rows.any fun r => r.isRequired.isSome

/-- The table with the given rows. -/
def ofRows (rows : List Row) : Table := ⟨headerOf rows, rows⟩

/-- The rows of two tables in one. -/
def union (t u : Table) : Table := ofRows (t.rows ++ u.rows)

/-- The rows of several tables in one. -/
def concat (ts : List Table) : Table := ts.foldl union empty

@[simp] theorem rows_ofRows (rows : List Row) : (ofRows rows).rows = rows := rfl

@[simp] theorem rows_union (t u : Table) : (t.union u).rows = t.rows ++ u.rows := rfl

@[simp] theorem rows_empty : empty.rows = [] := rfl

theorem empty_eq_ofRows : empty = ofRows [] := rfl

theorem foldl_union (ts : List Table) (t : Table) (h : t = ofRows t.rows) :
    ts.foldl union t = ofRows (t.rows ++ ts.flatMap (·.rows)) := by
  induction ts generalizing t with
  | nil => simpa using h
  | cons u ts ih => simp [List.foldl_cons, ih (t.union u) rfl]

/-- The rows of the tables one after another, under the header that follows from them. -/
theorem concat_eq_ofRows (ts : List Table) : concat ts = ofRows (ts.flatMap (·.rows)) := by
  simpa [concat] using foldl_union ts empty rfl

end Table

end RamlDocs
