import RamlDocs.Definition.Facet
import RamlDocs.Logged
import RamlDocs.View.Table

/-!
# Tables of JSON schemas

A schema with properties becomes a table with one row for each of them, and a property that has
properties itself gets a nested table. A schema of arrays stands for the schema of its items. A
schema that cannot be read is passed over with a note.
-/

namespace RamlDocs.Schema

/-- The items of a schema of arrays, else the schema itself. -/
def element (schema : Value) : Value :=
  match schema with
  | .map m => (Mapping.get? m "items").getD schema
  | v => v

/-- The declaration of a property of array type is that of its items, if they have one. -/
def propertyElement (declared : Value) : Value :=
  match Mapping.get declared.entries "items" with
  | .map m => .map m
  | _ => .map declared.entries

/-- The properties of a schema, and the names it lists as required. -/
def properties? : Value → Option (Mapping × List Value)
  | .map m =>
    match Mapping.get m "properties" with
    | .map properties => some (properties, (Mapping.get m "required").items)
    | _ => none
  | _ => none

/-- Whether the property of a name is required: what its own declaration says, else whether the
schema lists it, if the schema lists anything. -/
def isRequired (name : Key) (declared : Mapping) (required : List Value) : Option Bool :=
  match Mapping.get declared "required" with
  | .bool b => some b
  | _ =>
    if required.isEmpty then none
    else some (required.any fun v => v.text? == some name.display)

/-- The row of a property, given the table of the properties nested in it. -/
def row (name : Key) (declared : Value) (required : List Value) (nested : Table) : Row :=
  let m := declared.entries
  { name := name.display
    type := Mapping.get m "type"
    description := (Mapping.get m "description").text?
    isRequired := isRequired name m required
    nested := if Mapping.has m "properties" then some nested else none }

theorem sizeOf_find?_lt {m : Mapping} {k : Key} {v : Value} (h : Mapping.find? m k = some v) :
    sizeOf v < sizeOf m := by
  obtain ⟨e, he, rfl⟩ := Option.map_eq_some_iff.1 h
  have mem := List.mem_of_find?_eq_some he
  have := List.sizeOf_lt_of_mem mem
  rcases e with ⟨l, w⟩
  simp only [Prod.mk.sizeOf_spec] at this
  simp only
  omega

theorem sizeOf_get_lt {m n : Mapping} {name : String} (h : Mapping.get m name = .map n) :
    sizeOf (Value.map n) < sizeOf m := by
  unfold Mapping.get at h
  cases hf : Mapping.get? m name with
  | none => simp [hf] at h
  | some v =>
    rw [hf] at h
    simp only [Option.getD_some] at h
    exact h ▸ sizeOf_find?_lt hf

theorem sizeOf_element_le (v : Value) : sizeOf (element v) ≤ sizeOf v := by
  unfold element
  split
  · rename_i m
    cases hf : Mapping.get? m "items" with
    | none => simp
    | some w =>
      have := sizeOf_find?_lt hf
      simp only [Option.getD_some, Value.map.sizeOf_spec]
      omega
  · exact Nat.le_refl _

theorem sizeOf_propertyElement_le (v : Value) :
    sizeOf (propertyElement v) ≤ max (sizeOf v) (sizeOf (Value.map [])) := by
  unfold propertyElement
  split
  · rename_i m h
    cases v with
    | map n =>
      have := sizeOf_get_lt h
      simp only [Value.map.sizeOf_spec, Value.entries] at this ⊢
      omega
    | _ => simp [Value.entries, Mapping.get, Mapping.get?, Mapping.find?] at h
  · cases v with
    | map n => exact Nat.le_max_left _ _
    | _ => exact Nat.le_max_right _ _

theorem sizeOf_property_lt {v : Value} {properties : Mapping} {required : List Value}
    (h : properties? v = some (properties, required)) : sizeOf properties + 1 < sizeOf v := by
  unfold properties? at h
  split at h
  · rename_i m
    split at h
    · rename_i p hp
      simp only [Option.some.injEq, Prod.mk.injEq] at h
      obtain ⟨rfl, _⟩ := h
      have := sizeOf_get_lt hp
      simp only [Value.map.sizeOf_spec] at this ⊢
      omega
    · simp at h
  · simp at h

theorem sizeOf_entry_lt {m : Mapping} {e : Key × Value} (h : e ∈ m) :
    max (sizeOf e.2) (sizeOf (Value.map [])) < sizeOf m + 1 := by
  have := List.sizeOf_lt_of_mem h
  rcases e with ⟨k, v⟩
  cases m with
  | nil => simp at h
  | cons f m =>
    rcases f with ⟨l, w⟩
    have hl : 1 ≤ sizeOf l := by cases l <;> simp +arith
    have hw : 1 ≤ sizeOf w := by cases w <;> simp +arith
    simp only [Prod.mk.sizeOf_spec, List.cons.sizeOf_spec, Value.map.sizeOf_spec,
      List.nil.sizeOf_spec] at this ⊢
    omega

/-- The table of a schema. -/
def table (schema : Value) : Table :=
  match _found : properties? (element schema) with
  | none => .empty
  | some (properties, required) =>
    .ofRows (properties.attach.map fun e =>
      row e.val.1 (propertyElement e.val.2) required (table (propertyElement e.val.2)))
termination_by sizeOf schema
decreasing_by
  have h₁ := sizeOf_element_le schema
  have h₂ := sizeOf_property_lt _found
  have h₃ := sizeOf_propertyElement_le e.val.2
  have h₄ := sizeOf_entry_lt e.property
  omega

/-- The table of a schema that is given as a text or as a value. -/
def tableOf (content : Value) : Logged Table :=
  match content with
  | .map m => pure (table (.map m))
  | .list vs => pure (table (.list vs))
  | .text s =>
    match Json.read s with
    | .ok v => pure (table v)
    | .error f => do
      Logged.note (.malformedSchema (f.message s))
      pure .empty
  | v => do
    Logged.note
      (.malformedSchema ("the JSON object must be str, bytes or bytearray, not " ++ v.kind))
    pure .empty

end RamlDocs.Schema
