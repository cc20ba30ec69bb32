import RamlDocs.Definition.Body
import RamlDocs.Proofs.Value.Ordinary

/-!
# Reading ordinary values

Whatever shape an ordinary value has, it can be read where a facet is expected: as a text or number,
as references or names of security schemes, as an example, and as the declaration of a parameter, a
property, a type or a body. No reading fails.
-/

namespace RamlDocs

variable {k : Key} {v : Value} {m : Mapping}

/-- Entries are read one by one. -/
theorem returns_mapM_entries {α : Type} {f : Key × Value → Except Fault α} (h : m.Ordinary)
    (each : ∀ k v, ordinary.key k = true → v.Ordinary → Returns (f (k, v))) :
    Returns (m.mapM f) := by
  have all := (entriesWithin_iff.mp h).2
  exact Returns.mapM fun e mem => each e.1 e.2 (all e mem).1 (all e mem).2

/-! ## Facets -/

namespace Facet

theorem returns_text? (h : v.Ordinary) : Returns (text? v) := by
  cases v with
  | null => exact ⟨_, rfl, trivial⟩
  | map m =>
    have inner := Value.within_get h "value"
    unfold text?
    simp only
    split
    · exact ⟨_, rfl, trivial⟩
    · exact (Value.returns_asText inner).map some
  | _ => exact (Value.returns_asText h).map some

theorem returns_int? (h : v.Ordinary) : Returns (int? v) := by
  cases v with
  | float x =>
    have finite : x.isFinite = true := h
    unfold Binary64.isFinite at finite
    unfold int?
    simp only
    split
    · next infinite => simp [infinite] at finite
    · exact ⟨_, rfl, trivial⟩
  | text s =>
    unfold int?
    simp only
    split <;> exact ⟨_, rfl, trivial⟩
  | _ => exact ⟨_, rfl, trivial⟩

/-- A declaration is made of what is declared, under the key `type` where that is no mapping. -/
theorem within_declaration {V : Vocabulary} (key : V.key (.text "type") = true)
    (h : v.within V = true) : entriesWithin V (declaration v) = true := by
  have type : ∀ w : Value, w.within V = true → entriesWithin V [(.text "type", w)] = true :=
    fun w hw => entriesWithin_iff.mpr
      ⟨List.pairwise_singleton _ _, List.forall_mem_singleton.mpr ⟨key, hw⟩⟩
  cases v with
  | text s => exact type _ h
  | list vs => exact type _ h
  | map m => exact h
  | _ => rfl

theorem ordinary_declaration (h : v.Ordinary) : (declaration v).Ordinary :=
  within_declaration (by decide) h

theorem ordinary_declaredType (h : m.Ordinary) : (declaredType m).Ordinary := by
  unfold declaredType
  cases found : Mapping.get? m "type" with
  | none => exact Value.within_get h "schema"
  | some w => exact Value.within_of_find? h found

theorem returns_optionalName (h : ordinary.key k = true) : Returns (optionalName k) :=
  (Key.returns_asText h).map _

theorem returns_references (h : v.Ordinary) : Returns (references v) := by
  refine Returns.map (Returns.mapM fun item mem => ?_) _
  have inner := Value.within_of_mem_asList h mem
  cases item with
  | map m => exact returns_mapM_entries inner fun _ _ key _ => (Key.returns_asText key).map _
  | _ => exact ⟨_, rfl, trivial⟩

theorem returns_securedBy (h : v.Ordinary) : Returns (securedBy v) := by
  refine Returns.map (Returns.mapM fun item mem => ?_) _
  have inner := Value.within_of_mem_asList h mem
  cases item with
  | map m =>
    cases m with
    | nil => exact ⟨_, rfl, trivial⟩
    | cons e m =>
      have key := ((entriesWithin_iff.mp inner).2 e List.mem_cons_self).1
      exact (Key.returns_asText key).map _
  | _ => exact ⟨_, rfl, trivial⟩

theorem returns_mediaType (h : v.Ordinary) : Returns (mediaType v) := by
  have read : ∀ w : Value, w.Ordinary →
      Returns (if w.isTruthy then w.asText else .ok "application/json") := by
    intro w hw
    split
    · exact Value.returns_asText hw
    · exact ⟨_, rfl, trivial⟩
  cases v with
  | list vs =>
    cases vs with
    | nil => exact read _ h
    | cons w vs => exact read w (itemsWithin_iff.mp h w List.mem_cons_self)
  | _ => exact read _ h

theorem returns_hasExampleFacets (texts : ∀ e ∈ m, ∃ s, e.1 = .text s) :
    Returns (hasExampleFacets m) := by
  induction m with
  | nil => exact ⟨_, rfl, trivial⟩
  | cons e m ih =>
    obtain ⟨k, v⟩ := e
    obtain ⟨⟨s, rfl⟩, rest⟩ := List.forall_mem_cons.mp texts
    exact (ih rest).bind fun _ _ => ⟨_, rfl, trivial⟩

/-- Where all keys are texts, an example has a value, made of what the example is made of. -/
theorem yields_exampleValue_within {V : Vocabulary}
    (texts : ∀ k, V.key k = true → ∃ s, k = .text s) (h : v.within V = true) :
    Yields (exampleValue v) fun w => w.within V = true := by
  cases v with
  | map m =>
    unfold exampleValue
    simp only
    cases found : Mapping.get? m "value" with
    | none => exact Yields.ok h
    | some w =>
      have keys := (entriesWithin_iff.mp h).2
      have facets := returns_hasExampleFacets fun e mem => texts e.1 (keys e mem).1
      refine Yields.map facets fun facets _ => ?_
      split
      · exact Value.within_of_find? h found
      · exact h
  | _ => exact Yields.ok h

theorem yields_exampleValue (h : v.Ordinary) : Yields (exampleValue v) Value.Ordinary :=
  yields_exampleValue_within (fun _ => exists_text_of_isOrdinaryKey) h

end Facet

open Facet

/-! ## Parameters, properties and types -/

theorem Parameter.returns_ofDeclaration (key : ordinary.key k = true) (h : v.Ordinary) :
    Returns (Parameter.ofDeclaration k v) := by
  have decl := ordinary_declaration h
  refine (returns_optionalName key).bind fun name _ => ?_
  refine (returns_text? (Value.within_get decl "description")).bind fun description _ => ?_
  refine (yields_exampleValue (Value.within_get decl "example")).bind fun unwrapped _ => ?_
  refine (returns_int? (Value.within_get decl "minLength")).bind fun minLength _ => ?_
  refine (returns_int? (Value.within_get decl "maxLength")).bind fun maxLength _ => ?_
  exact ⟨_, rfl, trivial⟩

theorem Parameter.returns_all (h : v.Ordinary) (names : List String) :
    Returns (Parameter.all v names) := by
  have entries := Value.within_entries h
  exact (returns_mapM_entries entries fun _ _ => Parameter.returns_ofDeclaration).map _

theorem Property.returns_ofDeclaration (key : ordinary.key k = true) (h : v.Ordinary) :
    Returns (Property.ofDeclaration k v) := by
  have decl := ordinary_declaration h
  refine (returns_optionalName key).bind fun name _ => ?_
  refine (returns_text? (Value.within_get decl "description")).bind fun description _ => ?_
  exact ⟨_, rfl, trivial⟩

theorem Property.returns_all (h : v.Ordinary) : Returns (Property.all v) :=
  returns_mapM_entries (Value.within_entries h) fun _ _ => Property.returns_ofDeclaration

theorem TypeDecl.returns_ofDeclaration (key : ordinary.key k = true) (h : v.Ordinary) :
    Returns (TypeDecl.ofDeclaration k v) := by
  have decl := ordinary_declaration h
  refine (Key.returns_asText key).bind fun name _ => ?_
  split
  · exact ⟨_, rfl, trivial⟩
  · refine (Property.returns_all (Value.within_get decl "properties")).bind fun properties _ => ?_
    exact ⟨_, rfl, trivial⟩

theorem TypeDecl.returns_all (h : m.Ordinary) : Returns (TypeDecl.all m) := by
  have declarations : (TypeDecl.declarations m).Ordinary :=
    entriesWithin_overlay (Value.within_entries (Value.within_get h "schemas"))
      (Value.within_entries (Value.within_get h "types"))
  exact returns_mapM_entries declarations fun _ _ => TypeDecl.returns_ofDeclaration

/-! ## Bodies -/

theorem NamedExample.returns_ofDeclaration (key : ordinary.key k = true) (h : v.Ordinary) :
    Returns (NamedExample.ofDeclaration k v) := by
  refine (yields_exampleValue h).bind fun unwrapped inner => ?_
  have text : Returns (NamedExample.jsonText unwrapped) := by
    unfold NamedExample.jsonText
    rw [obstacle?_of_within true inner]
    exact ⟨_, rfl, trivial⟩
  have named := Key.returns_asText key
  cases unwrapped with
  | text s => exact named.bind fun _ _ => ⟨_, rfl, trivial⟩
  | _ => exact text.bind fun _ _ => named.bind fun _ _ => ⟨_, rfl, trivial⟩

theorem NamedExample.returns_all (h : v.Ordinary) : Returns (NamedExample.all v) :=
  returns_mapM_entries (Value.within_entries h) fun _ _ => NamedExample.returns_ofDeclaration

theorem Body.returns_ofDeclaration (scope : Scope) (mediaType : String) (h : v.Ordinary) :
    Returns (Body.ofDeclaration scope mediaType v) := by
  have outer := ordinary_declaration h
  have type := ordinary_declaredType outer
  have read : ∀ decl : Mapping, decl.Ordinary →
      ∀ body : List Property → Value → List NamedExample → Body, Returns (do
        let properties ← Property.all (Mapping.get decl "properties")
        let unwrapped ← Facet.exampleValue (Mapping.get decl "example")
        let namedExamples ← NamedExample.all (Mapping.get decl "examples")
        .ok (body properties unwrapped namedExamples)) := by
    intro decl hdecl body
    refine (Property.returns_all (Value.within_get hdecl "properties")).bind fun _ _ => ?_
    refine (yields_exampleValue (Value.within_get hdecl "example")).bind fun _ _ => ?_
    refine (NamedExample.returns_all (Value.within_get hdecl "examples")).bind fun _ _ => ?_
    exact ⟨_, rfl, trivial⟩
  unfold Body.ofDeclaration
  dsimp only
  cases inPlace : declaredType (declaration v) with
  | map inner =>
    rw [inPlace] at type
    have rest : (Mapping.without inner "type").Ordinary :=
      entriesWithin_sublist List.filter_sublist type
    exact read _ (entriesWithin_merge _ outer rest) _
  | _ => exact read _ outer _

theorem Body.returns_isMediaType (h : ordinary.key k = true) : Returns (Body.isMediaType k) :=
  (Key.returns_asText h).map _

theorem Body.returns_all (scope : Scope) (h : v.Ordinary) : Returns (Body.all scope v) := by
  have entries := Value.within_entries h
  have single : ∀ w : Value, w.Ordinary →
      Returns ((Body.ofDeclaration scope scope.mediaType w).map fun b => [b]) := fun w hw =>
    (Body.returns_ofDeclaration scope scope.mediaType hw).map _
  have listed : Returns (do
      if ← v.entries.allM fun e => Body.isMediaType e.1 then v.entries.mapM (Body.ofEntry scope)
      else (Body.ofDeclaration scope scope.mediaType (.map v.entries)).map fun b => [b]) := by
    have all := (entriesWithin_iff.mp entries).2
    refine (Returns.allM fun e mem => Body.returns_isMediaType (all e mem).1).bind fun media _ => ?_
    split
    · refine returns_mapM_entries entries fun k w key hw => ?_
      refine (Key.returns_asText key).bind fun mediaType _ => ?_
      exact Body.returns_ofDeclaration scope mediaType hw
    · exact single (.map v.entries) entries
  unfold Body.all
  cases v with
  | null => exact ⟨_, rfl, trivial⟩
  | text s => exact single _ h
  | list vs => exact single _ h
  | _ => exact listed

end RamlDocs
