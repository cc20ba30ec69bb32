import Mathlib.Data.List.Forall2
import Mathlib.Data.List.Perm.Basic
import RamlDocs.Proofs.View.Inheritance

/-!
# The order of parents

In which order a type names its parents is only presentation. Where two registries differ in nothing
else, a reference has a table with the same rows in both, each as often, under the same header
(`tableOf_perm_of_reordered`). Cycles make no difference.

The two walks find the same types, since names do not depend on parents, and at corresponding calls
they have passed through the same types: the stop looks at the way that led to a call and never at
what the parents before it have brought. So each parent brings the same rows up to order, and the
parents are the same up to order. The order of the rows does follow that of the parents.
-/

namespace RamlDocs

/-! ## Headers -/

/-- A header depends on which rows there are and not on their order. -/
theorem Table.headerOf_of_perm {rows others : List Row} (h : rows.Perm others) :
    headerOf rows = headerOf others := by
  simp only [headerOf, h.any_eq, h.isEmpty_eq]

/-! ## Registries -/

/-- Two declarations of a type that differ in the order of the parents at most. -/
structure TypeDecl.Reordered (t u : TypeDecl) : Prop where
  name : t.name = u.name
  parents : t.parents.Perm u.parents
  properties : t.properties = u.properties
  schema : t.schema = u.schema

namespace TypeDecl.Reordered

variable {t u : TypeDecl}

theorem symm (h : t.Reordered u) : u.Reordered t :=
  ⟨h.name.symm, h.parents.symm, h.properties.symm, h.schema.symm⟩

theorem properParents (h : t.Reordered u) : t.properParents.Perm u.properParents :=
  h.parents.filter _

theorem ownRows (h : t.Reordered u) : t.ownRows = u.ownRows := by
  unfold TypeDecl.ownRows
  rw [h.properties, h.schema]

end TypeDecl.Reordered

namespace Registry

/-- The same types, but for the order of their parents. -/
abbrev SameTypes : List TypeDecl → List TypeDecl → Prop := List.Forall₂ TypeDecl.Reordered

/-- The same library under the same alias, but for the order of parents in it. -/
def SameEntry (l m : String × Library) : Prop := l.1 = m.1 ∧ SameTypes l.2.types m.2.types

/-- Two registries whose types differ in the order of their parents at most. -/
structure Reordered (registry other : Registry) : Prop where
  types : SameTypes registry.types other.types
  libraries : List.Forall₂ SameEntry registry.libraries other.libraries

variable {registry other : Registry} {seen : List String} {reference : String} {a : Declared}

theorem SameTypes.symm {ts us : List TypeDecl} (h : SameTypes ts us) : SameTypes us ts :=
  (h.imp fun _ _ same => same.symm).flip

theorem Reordered.symm (h : registry.Reordered other) : other.Reordered registry where
  types := h.types.symm
  libraries := (h.libraries.imp fun _ _ same => ⟨same.1.symm, same.2.symm⟩).flip

/-! ## The same types are found -/

theorem SameTypes.exists_of_named? {ts us : List TypeDecl} (h : SameTypes ts us) {name : String}
    {t : TypeDecl} (found : named? ts name = some t) :
    ∃ u, named? us name = some u ∧ t.Reordered u := by
  induction h with
  | nil => cases found
  | @cons v u ts us same _ ih =>
    unfold named? at found ih ⊢
    rw [List.find?_cons] at found ⊢
    rw [← same.name]
    split at found
    · cases found
      exact ⟨u, rfl, same⟩
    · exact ih found

theorem sameTypes_of_lookup {ls ms : List (String × Library)} (h : List.Forall₂ SameEntry ls ms)
    (owner : String) :
    SameTypes (((ls.lookup owner).map (·.types)).getD [])
      (((ms.lookup owner).map (·.types)).getD []) := by
  induction h with
  | nil => exact .nil
  | @cons l m ls ms same _ ih =>
    rw [List.lookup_cons, List.lookup_cons, ← same.1]
    cases owner == l.1 with
    | true => exact same.2
    | false => exact ih

theorem Reordered.typesOf (h : registry.Reordered other) :
    ∀ owner, SameTypes (registry.typesOf owner) (other.typesOf owner)
  | none => h.types
  | some owner => sameTypes_of_lookup h.libraries owner

/-- A type that one registry finds is found in the other, in the same place. -/
theorem Reordered.exists_of_find? (h : registry.Reordered other)
    (found : registry.find? reference = some a) :
    ∃ u, other.find? reference = some (a.1, u) ∧ a.2.Reordered u := by
  obtain ⟨pieces, first⟩ := find?_eq_some_iff.mp found
  obtain ⟨u, there, same⟩ := (h.typesOf a.1).exists_of_named? first
  rw [same.name] at pieces there
  exact ⟨u, find?_eq_some_iff.mpr ⟨pieces, there⟩, same⟩

theorem Reordered.find?_eq_none (h : registry.Reordered other)
    (lost : registry.find? reference = none) : other.find? reference = none := by
  by_contra held
  obtain ⟨b, found⟩ := Option.ne_none_iff_exists'.mp held
  obtain ⟨t, there, -⟩ := h.symm.exists_of_find? found
  rw [lost] at there
  cases there

/-! ## The walks correspond -/

/-- A table of a type has the header that follows from its rows. -/
theorem tableAfter_eq_ofRows (registry : Registry) (seen : List String) (reference : String) :
    (registry.tableAfter seen reference).value =
      .ofRows (registry.tableAfter seen reference).value.rows := by
  cases found : registry.find? reference with
  | none =>
    rw [tableAfter_of_unresolved found]
    rfl
  | some a =>
    by_cases met : key a ∈ seen
    · rw [tableAfter_of_met found met]
      rfl
    · rw [tableAfter_of_new found met]
      rfl

/-- Calls that have passed through the same types have the same rows up to order. -/
theorem Reordered.rows_perm (h : registry.Reordered other) (seen : List String)
    (reference : String) :
    (registry.tableAfter seen reference).value.rows.Perm
      (other.tableAfter seen reference).value.rows := by
  induction seen, reference using registry.walk_induction with
  | unresolved seen reference lost =>
    rw [tableAfter_of_unresolved lost, tableAfter_of_unresolved (h.find?_eq_none lost)]
  | met seen reference a found met =>
    obtain ⟨u, there, same⟩ := h.exists_of_find? found
    have known : key (a.1, u) = key a := congrArg (qualify a.1) same.name.symm
    rw [tableAfter_of_met found met, tableAfter_of_met there (known ▸ met)]
  | new seen reference a found new ih =>
    obtain ⟨u, there, same⟩ := h.exists_of_find? found
    have known : key (a.1, u) = key a := congrArg (qualify a.1) same.name.symm
    rw [tableAfter_of_new found new, tableAfter_of_new there (known ▸ new), known,
      Table.rows_ofRows, Table.rows_ofRows, same.ownRows]
    refine List.Perm.append_right _ ?_
    exact same.properParents.flatMap ih

/-- Registries whose types name the same parents in another order have the same tables but for the
order of the rows. -/
theorem tableOf_perm_of_reordered (h : registry.Reordered other) (reference : String) :
    (registry.tableOf reference).value.rows.Perm (other.tableOf reference).value.rows ∧
      (registry.tableOf reference).value.header = (other.tableOf reference).value.header := by
  have rows := h.rows_perm [] reference
  refine ⟨rows, ?_⟩
  rw [tableOf, tableOf, tableAfter_eq_ofRows registry, tableAfter_eq_ofRows other]
  exact Table.headerOf_of_perm rows

/-- Types that inherit from each other and twice from a third, with their parents in some order. -/
def tangled (order : List String → List String) : Registry where
  libraries := [("shop", { name := "shop", types := [
    { name := "Item", parents := order ["Box", "Thing"], properties := [{ name := "price" }] },
    { name := "Box", parents := order ["Item", "Thing", "object"],
      properties := [{ name := "size", description := some "In litres" }] },
    { name := "Thing", properties := [{ name := "weight" }] }] })]
  types := [{ name := "Order", parents := order ["shop.Item", "shop.Box"] }]

theorem tableOf_perm_tangled :
    (tangled id).Reordered (tangled List.reverse) ∧
      ((tangled id).tableOf "Order").value.rows.Perm
          ((tangled List.reverse).tableOf "Order").value.rows ∧
        ((tangled id).tableOf "Order").value.header =
          ((tangled List.reverse).tableOf "Order").value.header :=
  have reordered : (tangled id).Reordered (tangled List.reverse) :=
    ⟨.cons ⟨rfl, by decide, rfl, rfl⟩ .nil,
      .cons ⟨rfl, .cons ⟨rfl, by decide, rfl, rfl⟩ (.cons ⟨rfl, by decide, rfl, rfl⟩
        (.cons ⟨rfl, by decide, rfl, rfl⟩ .nil))⟩ .nil⟩
  ⟨reordered, tableOf_perm_of_reordered reordered "Order"⟩

end Registry

end RamlDocs
