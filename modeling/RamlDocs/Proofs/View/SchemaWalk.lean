import Mathlib.Data.List.Forall2
import RamlDocs.Proofs.Value.Every
import RamlDocs.Proofs.Value.Plain
import RamlDocs.View.Schema

/-!
# The walk through a JSON schema

A schema with properties has one row for each of them, and a property with properties of its own has
a nested table: the table that the schema of the property has when it stands alone
(`rows_of_schema`). So the table of a schema is put together from the tables of its parts.

Items are passed over in two places. A schema goes over to what stands under `items`, whatever that
is (`described`), while the declaration of a property goes over to its items only if they are a
mapping (`describedProperty`). The two ways to a nested table, through the schema around the property
and from the property itself, meet where no mapping describes items and properties at once
(`Separate`). Where one does, the first way goes over to items once more than the second.

One step of the walk is `table_of_properties` where there are properties, and
`table_of_isMap_eq_false` where there are none.
-/

namespace RamlDocs.Schema

/-! ## What a schema describes -/

/-- What a schema describes: the items of a schema of arrays, and else the schema itself. -/
def described (s : Value) : Value :=
  if s.entries.has "items" then s.entries.get "items" else s

/-- What the declaration of a property describes: its items if they are a schema, and else the
declaration itself. -/
def describedProperty (v : Value) : Value :=
  if (v.entries.get "items").isMap then v.entries.get "items" else v

variable {s v : Value} {m properties : Mapping}

theorem element_eq_described (s : Value) : element s = described s := by
  cases s with
  | map m =>
    cases found : Mapping.get? m "items" <;>
      simp [element, described, Value.entries, Mapping.has, Mapping.get, found]
  | _ => rfl

theorem propertyElement_eq (v : Value) : propertyElement v = .map (describedProperty v).entries := by
  unfold propertyElement describedProperty
  split
  next m items =>
    rw [items]
    rfl
  next other =>
    have none_ : (v.entries.get "items").isMap = false := by
      cases items : v.entries.get "items" with
      | map m => exact absurd items (other m)
      | _ => rfl
    simp [none_]

theorem describedProperty_of_items (h : v.entries.get "items" = .map m) :
    describedProperty v = .map m := by
  rw [describedProperty, h]
  rfl

theorem describedProperty_of_isMap_eq_false (h : (v.entries.get "items").isMap = false) :
    describedProperty v = v :=
  if_neg (by simp [h])

theorem entries_propertyElement (v : Value) :
    (propertyElement v).entries = (describedProperty v).entries := by
  rw [propertyElement_eq]
  rfl

theorem properties?_of_map (h : v.entries.get "properties" = .map properties) :
    properties? v = some (properties, (v.entries.get "required").items) := by
  cases v with
  | map m =>
    rw [Value.entries] at h
    unfold properties?
    simp only [h]
    rfl
  | _ => cases h

theorem properties?_of_isMap_eq_false (h : (v.entries.get "properties").isMap = false) :
    properties? v = none := by
  cases v with
  | map m =>
    rw [Value.entries] at h
    unfold properties?
    simp only
    split
    next other => simp [other, Value.isMap] at h
    next => rfl
  | _ => rfl

/-! ## One step of the walk -/

/-- The row that the walk makes of a property. -/
def propertyRow (required : List Value) (e : Key × Value) : Row :=
  row e.1 (propertyElement e.2) required (table (propertyElement e.2))

theorem table_of_properties (h : (described s).entries.get "properties" = .map properties) :
    table s =
      .ofRows (properties.map (propertyRow ((described s).entries.get "required").items)) := by
  have found := properties?_of_map h
  rw [← element_eq_described] at found
  rw [table]
  split
  next none_ => rw [found] at none_; cases none_
  next some_ =>
    rw [found] at some_
    cases some_
    rw [element_eq_described]
    exact congrArg Table.ofRows (List.attach_map_val (f := propertyRow _))

theorem table_of_isMap_eq_false (h : ((described s).entries.get "properties").isMap = false) :
    table s = .empty := by
  have lost := properties?_of_isMap_eq_false h
  rw [← element_eq_described] at lost
  rw [table]
  split
  next => rfl
  next some_ => rw [lost] at some_; cases some_

/-- Schemas that describe the same have the same table. -/
theorem table_congr {w : Value} (same : described s = described w) : table s = table w := by
  cases shape : (described s).entries.get "properties" with
  | map properties =>
    rw [table_of_properties shape, table_of_properties (same ▸ shape), same]
  | _ =>
    have none_ : ((described s).entries.get "properties").isMap = false := by rw [shape]; rfl
    rw [table_of_isMap_eq_false none_, table_of_isMap_eq_false (same ▸ none_)]

/-! ## Tables of subschemas -/

/-- Whether a mapping does not describe items and properties at once. -/
def describesOne (m : Mapping) : Bool := !(m.has "items" && m.has "properties")

/-- Nowhere in a value does a mapping describe items and properties at once. -/
abbrev Separate (v : Value) : Prop := v.every (fun _ => true) describesOne = true

theorem tableOf_of_isLeaf_eq_false (h : s.isLeaf = false) : (tableOf s).value = table s := by
  cases s with
  | map m => rfl
  | list vs => rfl
  | _ => cases h

theorem Separate.described (h : Separate s) : Separate (described s) := by
  unfold Schema.described
  split
  · exact Value.every_get h "items"
  · exact h

theorem described_of_has_properties (h : Separate v) (has : v.entries.has "properties" = true) :
    described v = v := by
  rw [Value.eq_map_of_isMap (Value.isMap_of_has has)] at h
  have one := (Value.every_map_iff.mp h).1
  simp only [describesOne, has, Bool.and_true, Bool.not_eq_true'] at one
  simp [described, one]

theorem described_of_isMap_items (h : (v.entries.get "items").isMap = true) :
    described v = v.entries.get "items" :=
  if_pos (Mapping.has_of_isMap_get h)

/-- Nested properties have the table that the schema of the property has by itself. -/
theorem table_propertyElement (h : Separate v)
    (has : (describedProperty v).entries.has "properties" = true) :
    table (propertyElement v) = (tableOf v).value := by
  have whole : v.isLeaf = false := by
    cases v with
    | map m => rfl
    | _ => cases has
  rw [propertyElement_eq, ← Value.eq_map_of_isMap (Value.isMap_of_has has),
    tableOf_of_isLeaf_eq_false whole]
  apply table_congr
  -- both walks come to what the property describes, one of them by way of the items
  unfold describedProperty at has ⊢
  split at has
  next items =>
    have apart : Separate (v.entries.get "items") := by
      rw [← described_of_isMap_items items]
      exact h.described
    rw [if_pos items, described_of_has_properties apart has, described_of_isMap_items items]
  next none_ => rw [if_neg none_]

/-- What the row of a property says of its name and of the properties nested in it. -/
structure RowOf (e : Key × Value) (r : Row) : Prop where
  name : e.1 = .text r.name
  nested : r.nested =
    if (describedProperty e.2).entries.has "properties" then some (tableOf e.2).value else none

theorem rowOf_propertyRow {required : List Value} {e : Key × Value}
    (key : textual.key e.1 = true) (h : Separate e.2) : RowOf e (propertyRow required e) where
  name := by
    obtain ⟨name, text⟩ := exists_text_of_textual key
    rw [propertyRow, row, text]
    rfl
  nested := by
    rw [propertyRow, row, entries_propertyElement]
    split
    next has => rw [table_propertyElement h has]
    next => rfl

theorem within_described {V : Vocabulary} (h : s.within V = true) :
    (described s).within V = true := by
  unfold described
  split
  · exact Value.within_get (Value.within_entries h) "items"
  · exact h

/-- The table of a schema, given the tables of the schemas of its properties by themselves. -/
theorem rows_of_schema (json : s.within textual = true) (whole : s.isLeaf = false)
    (apart : Separate s) :
    (∀ properties, (described s).entries.get "properties" = .map properties →
        List.Forall₂ RowOf properties (tableOf s).value.rows) ∧
      (((described s).entries.get "properties").isMap = false → (tableOf s).value = .empty) := by
  rw [tableOf_of_isLeaf_eq_false whole]
  refine ⟨fun properties shape => ?_, table_of_isMap_eq_false⟩
  have within : entriesWithin textual properties = true := by
    have := Value.within_get (Value.within_entries (within_described json)) "properties"
    rwa [shape] at this
  have below : Separate (.map properties) := by
    have := Value.every_get apart.described "properties"
    rwa [shape] at this
  rw [table_of_properties shape, Table.rows_ofRows, List.forall₂_map_right_iff, List.forall₂_same]
  intro e mem
  exact rowOf_propertyRow ((entriesWithin_iff.mp within).2 e mem).1
    ((Value.every_map_iff.mp below).2 e mem)

/-- What is declared of users: a list of texts, an object and a list of objects. -/
def userProperties : Mapping :=
  [(.text "tags", .record [("items", .record [("type", .text "string")])]),
    (.text "address", .record [("properties", .record [("street", .bool true)])]),
    (.text "friends", .record [("items", .record [("properties", .record [("id", .null)])])])]

/-- A schema of lists of users. -/
def usersSchema : Value :=
  .record [("type", .text "array"), ("items", .record [("properties", .map userProperties)])]

theorem rows_of_usersSchema :
    usersSchema.within textual = true ∧ usersSchema.isLeaf = false ∧ Separate usersSchema ∧
      (described usersSchema).entries.get "properties" = .map userProperties ∧
      List.Forall₂ RowOf userProperties (tableOf usersSchema).value.rows :=
  have json : usersSchema.within textual = true := by decide +kernel
  have apart : Separate usersSchema := by decide +kernel
  ⟨json, rfl, apart, rfl, (rows_of_schema json rfl apart).1 userProperties rfl⟩

end RamlDocs.Schema
