import RamlDocs.View.Registry
import RamlDocs.View.Schema

/-!
# Tables of types

The table of a type has the rows of its parents, in the order they are named, and then its own:
those of its properties, or else of its JSON schema. A parent without a point is looked up in the
library the type is declared in; a parent with a point goes to the library that the definition has
under the alias. A type that is met again on the way to itself ends that way with a note, so the
walk goes through fewer unseen types at every step.
-/

namespace RamlDocs

/-- Types of the language itself, which have no rows. -/
def builtinTypes : List String :=
  ["any", "object", "array", "union", "string", "number", "integer", "boolean", "date-only",
    "time-only", "datetime-only", "datetime", "file", "nil"]

/-- The row of a property. -/
def Property.row (p : Property) : Row where
  name := p.name
  type := Value.ofText? p.types.head?
  description := p.description.filter (· != "")
  isRequired := some p.required

/-- The table of properties. -/
def Property.table (properties : List Property) : Table := .ofRows (properties.map Property.row)

namespace TypeDecl

/-- The rows that a type declares itself, as a table. -/
def ownTable (t : TypeDecl) : Logged Table :=
  if !t.properties.isEmpty then pure (Property.table t.properties)
  else if t.schema.isNull then pure .empty
  else Schema.tableOf t.schema

/-- The parents of a type that may have rows. -/
def properParents (t : TypeDecl) : List String :=
  t.parents.filter fun p => !builtinTypes.contains p

end TypeDecl

namespace Registry

/-- No table, with a note that says why. -/
def noTable (n : Note) : Logged Table := ⟨.empty, [n]⟩

/-- The table of a type after the tables of its parents. -/
def joinParents (t : TypeDecl) (parents : Logged (List Table)) : Logged Table := do
  let tables ← parents
  let own ← t.ownTable
  pure (Table.concat (tables ++ [own]))

/-- What `f` makes of the type that a reference names, which is one of the registry. -/
def withType (registry : Registry) (reference : String)
    (f : (owner : Option String) → (t : TypeDecl) → qualify owner t.name ∈ registry.keys →
      Logged Table) : Logged Table :=
  match found : registry.find? reference with
  | none => noTable (.unresolvedType reference)
  | some (owner, t) => f owner t (qualify_mem_keys found)

/-- The table of a type that is referred to after passing through the types in `seen`. -/
def tableAfter (registry : Registry) (seen : List String) (reference : String) : Logged Table :=
  registry.withType reference fun owner t _known =>
    if _met : qualify owner t.name ∈ seen then noTable (.inheritanceCycle (qualify owner t.name))
    else
      joinParents t (Logged.mapList
        (fun p => registry.tableAfter (qualify owner t.name :: seen) (qualify owner p))
        t.properParents)
termination_by (registry.unseen seen).length
decreasing_by exact unseen_length_lt _known _met

/-- The table of the type that a reference names. -/
def tableOf (registry : Registry) (reference : String) : Logged Table :=
  registry.tableAfter [] reference

end Registry

end RamlDocs
