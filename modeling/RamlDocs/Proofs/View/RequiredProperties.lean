import RamlDocs.Proofs.View.SchemaWalk

/-!
# Required properties

A schema may say in two ways that a property is required: the declaration of the property by a
boolean, and the schema around it by a list of names. At every level of the walk through a schema,
the declaration goes before the list, and the list decides if it names anything
(`required_of_level`).

The declaration is looked at after it has been replaced by its items, if these are a schema. So what
is said of a list as a whole counts only if it is said of the items too or follows from the list of
names (`Required.items`), and else is lost (`required_of_items_lost`).

The levels of a walk are told by its result alone: a table nested in the row of a property belongs to
what the property describes (`Level`). What holds of one step of the walk then holds at every level,
as the table of a level is the table of some schema (`Level.exists_schema`).
-/

namespace RamlDocs.Schema

/-! ## Levels -/

/-- The schema that the content of a declaration stands for: a mapping or a list for itself, a text
for what it spells. -/
inductive Holds : Value → Value → Prop
  | map (m : Mapping) : Holds (.map m) (.map m)
  | list (vs : List Value) : Holds (.list vs) (.list vs)
  | text {t : String} {s : Value} (spells : Json.read t = .ok s) : Holds (.text t) s

/-- The walk through a schema comes to the mapping `c`, and `t` is the table for it: first comes
what the schema describes, then what the properties of such a mapping describe. -/
inductive Level (content : Value) : Mapping → Table → Prop
  | top {s : Value} {c : Mapping} (holds : Holds content s) (about : described s = .map c) :
      Level content c (tableOf content).value
  | nested {c d properties : Mapping} {i : Nat} {e : Key × Value} {r : Row} {t u : Table}
      (above : Level content c t) (declared : c.get "properties" = .map properties)
      (entry : properties[i]? = some e) (row : t.rows[i]? = some r) (below : r.nested = some u)
      (about : described (describedProperty e.2) = .map d) : Level content d u

variable {content s v : Value} {c d properties : Mapping} {t u : Table} {i : Nat}
  {e : Key × Value} {names : List Value} {name : String}

theorem tableOf_of_holds (h : Holds content s) : (tableOf content).value = table s := by
  cases h with
  | map m => rfl
  | list vs => rfl
  | text spells => simp only [tableOf, spells, Logged.value_pure]

theorem described_propertyElement (h : described (describedProperty v) = .map d) :
    described (propertyElement v) = .map d := by
  have whole : (describedProperty v).isMap = true := by
    cases shape : describedProperty v with
    | map m => rfl
    | _ =>
      rw [shape] at h
      cases h
  rwa [propertyElement_eq, ← Value.eq_map_of_isMap whole]

theorem nested_propertyRow :
    (propertyRow names e).nested =
      if (describedProperty e.2).entries.has "properties" then some (table (propertyElement e.2))
      else none := by
  rw [propertyRow, row, entries_propertyElement]

theorem rows_of_described (same : described s = .map c)
    (declared : c.get "properties" = .map properties) :
    (table s).rows = properties.map (propertyRow (c.get "required").items) := by
  have shape : (described s).entries.get "properties" = .map properties := by
    rw [same]
    exact declared
  rw [table_of_properties shape, same]
  rfl

namespace Level

/-- The table of a level is that of a schema which describes the mapping of the level. -/
theorem exists_schema (h : Level content c t) : ∃ s, described s = .map c ∧ t = table s := by
  induction h with
  | @top s c holds about => exact ⟨s, about, tableOf_of_holds holds⟩
  | @nested c d properties i e r t u _ declared entry row below about ih =>
    obtain ⟨s, same, rfl⟩ := ih
    rw [rows_of_described same declared, List.getElem?_map, entry] at row
    obtain rfl := Option.some.inj row
    rw [nested_propertyRow] at below
    split at below
    · exact ⟨propertyElement e.2, described_propertyElement about, (Option.some.inj below).symm⟩
    · cases below

/-- At every level there is one row for each property, in order. -/
theorem rows_eq (h : Level content c t) (declared : c.get "properties" = .map properties) :
    t.rows = properties.map (propertyRow (c.get "required").items) := by
  obtain ⟨s, same, rfl⟩ := h.exists_schema
  exact rows_of_described same declared

/-- Properties of a property are a level of their own. -/
theorem exists_nested (h : Level content c t) (declared : c.get "properties" = .map properties)
    (entry : properties[i]? = some e)
    (has : (describedProperty e.2).entries.has "properties" = true)
    (about : described (describedProperty e.2) = .map d) : ∃ u, Level content d u := by
  have row : t.rows[i]? = some (propertyRow (c.get "required").items e) := by
    rw [h.rows_eq declared, List.getElem?_map, entry]
    rfl
  exact ⟨_, h.nested declared entry row (nested_propertyRow.trans (if_pos has)) about⟩

end Level

/-! ## Who decides -/

/-- How the answer whether a property is required follows from its declaration and from the names
that the schema around it lists. -/
structure Required (names : List Value) (name : String) (declared : Mapping)
    (answer : Option Bool) : Prop where
  /-- What a declaration without a schema of items says is the answer. -/
  own : ∀ b, declared.get "required" = .bool b → (declared.get "items").isMap = false →
    answer = some b
  /-- What is said of a list with a schema of its items is the answer if the items say the same, or
  if they say nothing and the names do, and only then. -/
  items : ∀ (b : Bool) (inner : Mapping), declared.get "required" = .bool b →
    declared.get "items" = .map inner →
      (answer = some b ↔ inner.get "required" = .bool b ∨
        (inner.get "required").bool? = none ∧ names ≠ [] ∧ (b = true ↔ .text name ∈ names))
  /-- Where neither the declaration nor its items say anything, the names decide, if there are
  any. -/
  listed : (declared.get "required").bool? = none →
    ((declared.get "items").entries.get "required").bool? = none → names ≠ [] →
      ∃ b, answer = some b ∧ (b = true ↔ .text name ∈ names)

theorem isRequired_eq_some_iff {b : Bool} :
    isRequired (.text name) d names = some b ↔
      d.get "required" = .bool b ∨
        (d.get "required").bool? = none ∧ names ≠ [] ∧ (b = true ↔ .text name ∈ names) := by
  have among : (names.any fun v => v.text? == some name) = true ↔ .text name ∈ names := by
    simp [Value.text?_eq_some_iff]
  unfold isRequired
  split
  next a stated => simp [stated, Value.bool?]
  next other =>
    have silent : (d.get "required").bool? = none := by
      cases shape : d.get "required" with
      | bool a => exact absurd shape (other a)
      | _ => rfl
    rw [or_iff_right (other b), and_iff_right silent]
    cases names with
    | nil => simp
    | cons v names =>
      rw [List.isEmpty_cons, if_neg Bool.false_ne_true, Key.display, Option.some.injEq, eq_comm,
        Bool.eq_iff_iff, among, and_iff_right (List.cons_ne_nil v names)]

/-- Where a declaration says nothing, the names decide. -/
theorem exists_isRequired_of_silent (silent : (d.get "required").bool? = none)
    (some_ : names ≠ []) :
    ∃ b, isRequired (.text name) d names = some b ∧ (b = true ↔ .text name ∈ names) := by
  rcases Classical.em (.text name ∈ names) with mem | new
  · have same : true = true ↔ .text name ∈ names := iff_of_true rfl mem
    exact ⟨true, isRequired_eq_some_iff.mpr (.inr ⟨silent, some_, same⟩), same⟩
  · have same : false = true ↔ .text name ∈ names := iff_of_false Bool.false_ne_true new
    exact ⟨false, isRequired_eq_some_iff.mpr (.inr ⟨silent, some_, same⟩), same⟩

theorem isRequired_propertyRow :
    (propertyRow names e).isRequired = isRequired e.1 (describedProperty e.2).entries names := by
  rw [propertyRow, row, entries_propertyElement]

theorem required_propertyRow :
    Required names name d (propertyRow names (.text name, .map d)).isRequired := by
  rw [isRequired_propertyRow]
  constructor
  case own =>
    intro b stated flat
    rw [describedProperty_of_isMap_eq_false (v := .map d) flat]
    exact isRequired_eq_some_iff.mpr (.inl stated)
  case items =>
    intro b inner _ shape
    rw [describedProperty_of_items (v := .map d) shape]
    exact isRequired_eq_some_iff
  case listed =>
    intro silent quiet some_
    apply exists_isRequired_of_silent ?_ some_
    cases shape : d.get "items" with
    | map inner =>
      rw [shape] at quiet
      rw [describedProperty_of_items (v := .map d) shape]
      exact quiet
    | _ =>
      rw [describedProperty_of_isMap_eq_false (by rw [Value.entries, shape]; rfl)]
      exact silent

/-- At every level of the walk, the row of a property says whether it is required as its declaration,
the items in it and the names that its schema lists say. -/
theorem required_of_level (h : Level content c t) (declared : c.get "properties" = .map properties)
    (entry : properties[i]? = some (.text name, .map d)) :
    ∃ r, t.rows[i]? = some r ∧ r.name = name ∧
      Required (c.get "required").items name d r.isRequired := by
  refine ⟨propertyRow (c.get "required").items (.text name, .map d), ?_, rfl, required_propertyRow⟩
  rw [h.rows_eq declared, List.getElem?_map, entry]
  rfl

/-- An address in the schema of a user, one part of which has to be there. -/
def addressSchema : Mapping :=
  [(.text "properties", .record [
      ("street", .record [("type", .text "string")]),
      ("lines", .record [("required", .bool true), ("items", .record [("type", .text "string")])])]),
    (.text "required", .list [.text "street"])]

/-- A list of users with an address. -/
def addressedSchema : Value :=
  .record [("items", .record [("properties", .record [("address", .map addressSchema)])])]

theorem required_addressedSchema :
    ∃ t, Level addressedSchema addressSchema t ∧
      ∃ r, t.rows[0]? = some r ∧ r.name = "street" ∧
        Required [.text "street"] "street" [(.text "type", .text "string")] r.isRequired := by
  have top : Level addressedSchema _ _ := .top (.map _) rfl
  obtain ⟨t, level⟩ := top.exists_nested (i := 0) rfl rfl rfl rfl
  exact ⟨t, level, required_of_level level rfl rfl⟩

/-- A schema with a property that is a list and has to be there. -/
def taggedSchema : Value :=
  .record [("properties", .record [("tags", .record
    [("type", .text "array"), ("required", .bool true),
      ("items", .record [("type", .text "string")])])])]

/-- What the declaration of a list says itself may be lost. -/
theorem required_of_items_lost :
    ¬ ∀ (content : Value) (c properties d : Mapping) (t : Table) (i : Nat) (name : String)
      (b : Bool), Level content c t → c.get "properties" = .map properties →
        properties[i]? = some (.text name, .map d) → d.get "required" = .bool b →
          ∃ r, t.rows[i]? = some r ∧ r.isRequired = some b := by
  intro all
  have top : Level taggedSchema _ _ := .top (.map _) rfl
  obtain ⟨r, row, answer⟩ := all taggedSchema _ _ _ _ 0 "tags" true top rfl rfl rfl
  rw [top.rows_eq rfl] at row
  cases row
  cases answer

end RamlDocs.Schema
