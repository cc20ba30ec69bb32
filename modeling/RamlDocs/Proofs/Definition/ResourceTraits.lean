import RamlDocs.Proofs.Definition.ResourceType
import RamlDocs.Proofs.Template.Fill

/-!
# Traits along a chain of types

A resource type can bring traits for all methods of a resource. The completed resource refers to
its own traits and then to those of the definitions along its chain of types, nearest first
(`traits_of_apply`): nothing is lost, added or put elsewhere, in whichever form the traits are
written.

Two things are behind this. What a definition says under a key that is no method goes out as it is
(`find?_contribution_facet`), and where neither side refers to a trait the merged value, though it
may come from either of the two, refers to none (`asList_completedBy`). Which traits the names
stand for, and what they do to a method, is not said here.
-/

namespace RamlDocs

open Template (Params)

/-- The references to traits that a mapping holds. -/
abbrev Mapping.traits (m : Mapping) : List Value := Facet.asList (m.get "is")

namespace ResourceType

variable {scope : Scope} {params : Params} {m d definition applied : Mapping}
  {ds : List Mapping}

/-! ## Keys that come once -/

theorem distinct_definition? {reference : String × Mapping}
    (h : definition? scope params reference = .ok (some d)) : d.Distinct := by
  unfold definition? at h
  split at h
  · obtain ⟨filled, came, same⟩ := map_eq_ok.mp h
    cases same
    exact Template.distinct_fillEntries came List.Pairwise.nil
  · cases h

theorem distinct_contribution {done : Mapping}
    (h : contribution m done definition = .ok applied) (distinct : done.Distinct) :
    applied.Distinct := by
  induction definition generalizing done with
  | nil =>
    cases h
    exact distinct
  | cons e definition ih =>
    obtain ⟨k, v⟩ := e
    unfold contribution at h
    cases ht : target? m k with
    | none =>
      rw [ht] at h
      exact ih h distinct
    | some l =>
      rw [ht] at h
      obtain ⟨w, _, h⟩ := bind_eq_ok.mp h
      exact ih h (distinct.put l w)

theorem distinct_complete (distinct : m.Distinct) (applied : Mapping) :
    (complete m applied).Distinct := by
  have merged : (Mapping.merge (m.without "type") applied).Distinct :=
    Mapping.Distinct.merge (List.Pairwise.filter _ distinct)
  unfold complete
  simp only
  split
  · exact merged
  · exact merged.put _ _

theorem Completion.distinct {result : Mapping} (h : Completion ds m result)
    (distinct : m.Distinct) : result.Distinct := by
  cases h with
  | bare => exact distinct
  | step => exact distinct_complete distinct _

/-! ## One definition -/

/-- What a definition says under a key that is neither its type nor about a method goes out as it
is. -/
theorem find?_contribution_facet {done : Mapping} {name : String}
    (h : contribution m done definition = .ok applied) (distinct : definition.Distinct)
    (goes : target? m (.text name) = some (.text name)) (plain : name ∉ httpMethods) :
    applied.find? (.text name) = (definition.find? (.text name)).or (done.find? (.text name)) := by
  have unnamed : httpMethod? (.text name) = none := by simp [httpMethod?, plain]
  induction definition generalizing done with
  | nil =>
    cases h
    rfl
  | cons e definition ih =>
    obtain ⟨k, v⟩ := e
    obtain ⟨new, rest⟩ := List.pairwise_cons.mp distinct
    rw [Mapping.find?_cons]
    by_cases hk : k = .text name
    · subst hk
      have absent : Mapping.find? definition (.text name) = none :=
        Mapping.find?_eq_none_iff.mpr fun e mem => by rw [Key.same_comm, new e mem]
      rw [contribution, goes] at h
      simp only [fillMethod, unnamed, ok_bind] at h
      rw [ih h rest, absent, Option.none_or, Mapping.find?_put, if_pos (Key.same_self _),
        if_pos (Key.same_self _), Option.some_or]
    · rw [if_neg (mt (Key.same_text_iff k name).mp hk)]
      rw [contribution] at h
      cases ht : target? m k with
      | none =>
        rw [ht] at h
        exact ih h rest
      | some l =>
        rw [ht] at h
        obtain ⟨w, _, h⟩ := bind_eq_ok.mp h
        have other : l ≠ .text name := by
          rcases target?_eq_some ht with ⟨-, rfl⟩ | ⟨method, known, -, rfl⟩
          · exact hk
          · rintro ⟨⟩
            exact plain known
        rw [ih h rest, Mapping.find?_put, if_neg (mt (Key.same_text_iff l name).mp other)]

theorem traits_contribution (h : contribution m [] definition = .ok applied)
    (distinct : definition.Distinct) : applied.traits = definition.traits := by
  have same : applied.find? (.text "is") = (definition.find? (.text "is")).or none :=
    find?_contribution_facet h distinct rfl (by decide)
  rw [Option.or_none] at same
  unfold Mapping.traits Mapping.get Mapping.get?
  rw [same]

/-- A value that refers to no trait is completed by another such value to a third. -/
theorem asList_completedBy {v w : Value} (hv : Facet.asList v = []) (hw : Facet.asList w = []) :
    Facet.asList (v.completedBy w) = [] := by
  rcases Value.completedBy_cases v w with left | right | ⟨s, t, rfl, -, -⟩
  · rw [left, hv]
  · rw [right, hw]
  · cases hv

theorem traits_complete (distinct : applied.Distinct) (m : Mapping) :
    (complete m applied).traits = m.traits ++ applied.traits := by
  unfold complete Mapping.traits
  simp only
  split
  next none_ =>
    obtain ⟨own, brought⟩ := List.append_eq_nil_iff.mp (List.isEmpty_iff.mp none_)
    rw [own, brought, List.append_nil]
    unfold Mapping.get Mapping.get? at own brought ⊢
    rw [Mapping.find?_merge distinct, Mapping.find?_without (by decide)]
    cases found : Mapping.find? applied (.text "is") with
    | none => exact own
    | some w =>
      rw [found] at brought
      exact asList_completedBy own brought
  next some_ =>
    unfold Mapping.set Mapping.get Mapping.get?
    rw [Mapping.find?_put, if_pos (Key.same_self _)]
    rfl

/-! ## The whole chain -/

/-- Each definition has come to refer to the traits of those after it before it completes the
mapping. -/
theorem Completion.traits_eq {result : Mapping} (h : Completion ds m result)
    (distinct : ∀ d ∈ ds, d.Distinct) :
    result.traits = m.traits ++ ds.flatMap Mapping.traits := by
  induction h with
  | bare m => rw [List.flatMap_nil, List.append_nil]
  | @step d m definition applied ds inner contributes ih =>
    obtain ⟨own, others⟩ := List.forall_mem_cons.mp distinct
    have brought := traits_contribution contributes (inner.distinct own)
    have alone := distinct_contribution contributes List.Pairwise.nil
    rw [traits_complete alone, brought, ih others, List.flatMap_cons]

theorem length_chain_le {limit : Nat} (h : chain scope params limit m = .ok ds) :
    ds.length ≤ limit := by
  induction limit generalizing m ds with
  | zero =>
    cases h
    exact Nat.le_refl 0
  | succ limit ih =>
    obtain ⟨reference, _, h⟩ := bind_eq_ok.mp h
    cases reference with
    | none =>
      cases h
      exact Nat.zero_le _
    | some reference =>
      obtain ⟨found, _, h⟩ := bind_eq_ok.mp h
      cases found with
      | none =>
        cases h
        exact Nat.zero_le _
      | some filled =>
        obtain ⟨rest, followed, h⟩ := bind_eq_ok.mp h
        cases h
        exact Nat.succ_le_succ (ih followed)

/-- A completed resource refers to its own traits and then to those of the definitions along its
chain of types, nearest first. -/
theorem traits_of_apply {type : Option String} {result : Mapping}
    (h : (apply scope params chainLimit m).outcome = .ok (type, result)) :
    ∃ ds, chain scope params chainLimit m = .ok ds ∧ ds.length ≤ 9 ∧
      Facet.asList (result.get "is") =
        Facet.asList (m.get "is") ++ ds.flatMap fun d => Facet.asList (d.get "is") := by
  obtain ⟨ds, followed, completion⟩ := completion_of_apply h
  refine ⟨ds, followed, length_chain_le followed, completion.traits_eq ?_⟩
  exact forall_chain (fun _ _ named => distinct_definition? named) followed

/-- Three resource types that go round, with traits as a single reference, as null and as a list. -/
def roundScope : Scope where
  root := [(.text "resourceTypes", .record [
    ("item", .record [("type", .text "plain"), ("is", .text "<<kind>>")]),
    ("plain", .record [("type", .text "base"), ("is", .null)]),
    ("base", .record [("is", .list [.text "logged", .text "kept"]), ("type", .text "item")])])]
  libraries := []
  mediaType := "application/json"

/-- A resource of the first of them, with a trait of its own. -/
def roundResource : Mapping :=
  [(.text "type", .record [("item", .record [("kind", .text "paged")])]), (.text "is", .text "own")]

/-- The chain goes round three times, the parameter is known the first time only, and every trait
comes as often as its definition. -/
theorem traits_of_roundResource :
    ∃ type result ds,
      (apply roundScope [] chainLimit roundResource).outcome = .ok (type, result) ∧
        chain roundScope [] chainLimit roundResource = .ok ds ∧
        (Facet.asList (result.get "is")).filterMap Value.text? =
          ["own", "paged", "logged", "kept", "<<kind>>", "logged", "kept", "<<kind>>", "logged",
            "kept"] ∧
        Facet.asList (result.get "is") = Facet.asList (roundResource.get "is") ++
          ds.flatMap fun d => Facet.asList (d.get "is") := by
  have computed : (apply roundScope [] chainLimit roundResource).outcome.toOption.map
      (fun completed => (Facet.asList (completed.2.get "is")).filterMap Value.text?) =
        some ["own", "paged", "logged", "kept", "<<kind>>", "logged", "kept", "<<kind>>", "logged",
          "kept"] := by
    decide +kernel
  obtain ⟨⟨type, result⟩, came, names⟩ := exists_ok_of_toOption computed
  obtain ⟨ds, followed, -, traits⟩ := traits_of_apply came
  exact ⟨type, result, ds, came, followed, names, traits⟩

end ResourceType

end RamlDocs
