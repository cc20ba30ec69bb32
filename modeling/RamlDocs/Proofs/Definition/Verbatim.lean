import RamlDocs.Proofs.Definition.ResourceType
import RamlDocs.Proofs.Template.Literal

/-!
# Completing without placeholders

A vocabulary is verbatim if what it spells has no placeholders to be filled in and it has the keys
that completing a mapping makes. Traits and resource types made of such a vocabulary apply as they
are written, and what they complete stays within it.
-/

namespace RamlDocs

open Template (Params literal)

/-- Nothing that a vocabulary spells is changed when templates are filled in, and the names of
methods and of the facet for traits are among its keys. -/
structure Vocabulary.Verbatim (V : Vocabulary) : Prop where
  keys : ∀ k, V.key k = true → literal.key k = true
  scalars : ∀ v, V.scalar v = true → literal.scalar v = true
  methods : ∀ name ∈ httpMethods, V.key (.text name) = true
  traits : V.key (.text "is") = true

theorem verbatim_literal : literal.Verbatim where
  keys _ h := h
  scalars _ h := h
  methods := by decide
  traits := by decide

namespace Vocabulary.Verbatim

variable {V : Vocabulary} {m : Mapping} {v : Value}

theorem fill_eq (hV : V.Verbatim) (params : Params) (h : v.within V = true) :
    Template.fill params v = .ok v :=
  Template.fill_of_within params (Value.within_mono hV.keys hV.scalars h)

theorem fillEntries_eq (hV : V.Verbatim) (params : Params) (h : entriesWithin V m = true) :
    Template.fillEntries params [] m = .ok m :=
  Template.fillEntries_of_within params (Value.within_mono (v := .map m) hV.keys hV.scalars h)

end Vocabulary.Verbatim

/-! ## Names with and without libraries -/

variable {scope : Scope}

theorem Scope.splitName_eq (name : String) :
    Scope.splitName name = (none, name) ∨
      ∃ owner inner, Scope.splitName name = (some owner, inner) := by
  unfold Scope.splitName
  split
  · exact .inr ⟨_, _, rfl⟩
  · exact .inl rfl

theorem Scope.splitName_of_not_mem {name : String} (plain : '.' ∉ name.toList) :
    Scope.splitName name = (none, name) := by
  have all : ∀ c ∈ name.toList, (c != '.') = true := fun c mem =>
    bne_iff_ne.mpr (ne_of_mem_of_not_mem mem plain)
  unfold Scope.splitName
  rw [List.span_eq_takeWhile_dropWhile, List.dropWhile_eq_nil_iff.mpr all]

theorem Scope.splitName_append {owner : String} (plain : '.' ∉ owner.toList) (name : String) :
    Scope.splitName (owner ++ "." ++ name) = (some owner, name) := by
  have all : ∀ c ∈ owner.toList, (c != '.') = true := fun c mem =>
    bne_iff_ne.mpr (ne_of_mem_of_not_mem mem plain)
  have text : (owner ++ "." ++ name).toList = owner.toList ++ '.' :: name.toList := by simp
  unfold Scope.splitName
  rw [text, List.span_eq_takeWhile_dropWhile, List.takeWhile_append_of_pos all,
    List.dropWhile_append_of_pos all]
  simp

/-- Without libraries, what is found under a name is declared in the root. -/
theorem Scope.mem_of_lookup {kind name : String} {m : Mapping} (alone : scope.libraries = [])
    (h : scope.lookup kind name = .map m) :
    (.text name, .map m) ∈ (scope.root.get kind).entries := by
  unfold Scope.lookup Scope.source? at h
  rcases Scope.splitName_eq name with local_ | ⟨owner, inner, foreign⟩
  · rw [local_] at h
    exact Mapping.mem_of_get h (by simp)
  · rw [foreign, alone] at h
    cases h

/-! ## Resource types -/

namespace ResourceType

variable {V : Vocabulary} {m definition applied : Mapping} {v : Value} {k l : Key}

/-- The definition that a reference names is found as it is declared. -/
theorem yields_definition? (hV : V.Verbatim) (params : Params) (reference : String × Mapping)
    (within : ∀ d, scope.lookup "resourceTypes" reference.1 = .map d →
      entriesWithin V d = true) :
    Yields (definition? scope params reference) fun found =>
      ∀ d, found = some d → scope.lookup "resourceTypes" reference.1 = .map d := by
  unfold definition?
  split
  next declared lookup =>
    rw [hV.fillEntries_eq _ (within declared lookup)]
    refine Yields.ok fun d same => ?_
    rw [lookup, Option.some.inj same]
  next =>
    refine Yields.ok fun d same => ?_
    cases same

/-- A definition without placeholders contributes as written. -/
theorem fillMethod_of_within (hV : V.Verbatim) (k : Key) (h : v.within V = true) :
    fillMethod k v = .ok v := by
  unfold fillMethod
  split
  · exact hV.fill_eq _ h
  · rfl

theorem key_of_target? (hV : V.Verbatim) (h : target? m k = some l) (key : V.key k = true) :
    V.key l = true := by
  rcases target?_eq_some h with ⟨-, rfl⟩ | ⟨name, known, -, rfl⟩
  · exact key
  · exact hV.methods name known

theorem yields_contribution (hV : V.Verbatim) {done : Mapping}
    (hd : entriesWithin V done = true) (h : entriesWithin V definition = true) :
    Yields (contribution m done definition) fun applied => entriesWithin V applied = true := by
  have all := (entriesWithin_iff.mp h).2
  clear h
  induction definition generalizing done with
  | nil => exact Yields.ok hd
  | cons e definition ih =>
    obtain ⟨k, v⟩ := e
    obtain ⟨⟨key, value⟩, rest⟩ := List.forall_mem_cons.mp all
    unfold contribution
    cases goes : target? m k with
    | none => exact ih hd rest
    | some l =>
      simp only [fillMethod_of_within hV l value, ok_bind]
      exact ih (entriesWithin_put hd (key_of_target? hV goes key) value) rest

theorem entriesWithin_complete (hV : V.Verbatim) (hm : entriesWithin V m = true)
    (ha : entriesWithin V applied = true) : entriesWithin V (complete m applied) = true := by
  have merged : entriesWithin V (Mapping.merge (m.without "type") applied) = true :=
    entriesWithin_merge applied (entriesWithin_sublist List.filter_sublist hm) ha
  unfold complete
  simp only
  split
  · exact merged
  · refine entriesWithin_put merged hV.traits (itemsWithin_iff.mpr fun v mem => ?_)
    rcases List.mem_append.mp mem with own | inherited
    · exact Value.within_of_mem_asList (Value.within_get hm "is") own
    · exact Value.within_of_mem_asList (Value.within_get ha "is") inherited

end ResourceType

end RamlDocs
