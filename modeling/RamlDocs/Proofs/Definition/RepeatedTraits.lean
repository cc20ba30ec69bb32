import RamlDocs.Proofs.Definition.Renaming
import RamlDocs.Proofs.Template.Fill
import RamlDocs.Proofs.Value.Absorption

/-!
# Traits that are applied again

A method is completed by the traits of its resource and then by its own. What a trait completes it
by does not depend on the method (`Method.traitFilled`), so a method with all its traits is one
mapping completed by a list of others (`Method.outcome_applyTraits`). A trait that has been applied
with the same parameters before adds nothing then, and the method comes out the same, faults
included, whether the reference is repeated among the traits of the resource or among its own
(`Method.ofDeclaration_repeated`).

Nothing is said of the notes on the way: an unknown trait is noted each time it is named.
-/

namespace RamlDocs

open Template (Params)

namespace Method

variable {scope : Scope} {params : Params} {name : String}

/-- What a trait completes a method by; nothing if the trait is not known. -/
def traitFilled (scope : Scope) (params : Params) (name : String) (reference : TraitReference) :
    Except Fault Mapping :=
  match scope.lookup "traits" reference.1 with
  | .map declared =>
    Template.fillEntries
      (Params.ofMapping reference.2 ++ (("methodName", .text name) :: params)) [] declared
  | _ => .ok []

theorem outcome_applyTrait (m : Mapping) (reference : TraitReference) :
    (applyTrait scope params name m reference).outcome =
      (traitFilled scope params name reference).map m.merge := by
  unfold applyTrait traitFilled
  cases scope.lookup "traits" reference.1 with
  | map declared =>
    simp only [Traced.outcome_bind, Traced.outcome_ofExcept]
    cases Template.fillEntries _ [] declared <;> rfl
  | _ => rfl

/-- A method with its traits is completed by what they are filled to, in order. -/
theorem outcome_applyTraits (m : Mapping) (references : List TraitReference) :
    (applyTraits scope params name m references).outcome =
      (references.mapM (traitFilled scope params name)).map (List.foldl Mapping.merge m) := by
  induction references generalizing m with
  | nil => rfl
  | cons reference rest ih =>
    rw [applyTraits, Traced.outcome_bind, outcome_applyTrait, map_bind, List.mapM_cons, bind_map]
    refine bind_congr_ok fun t _ => ?_
    rw [ih, bind_map]
    cases rest.mapM (traitFilled scope params name) <;> rfl

theorem areDistinct_traitParams (given : params.AreDistinct) {arguments : Mapping}
    (distinct : entriesWithin .any arguments = true) :
    (Params.ofMapping arguments ++ (("methodName", .text name) :: params)).AreDistinct := by
  intro p mem
  rcases List.mem_append.mp mem with argument | other
  · obtain ⟨e, held, named⟩ := List.mem_filterMap.mp argument
    obtain ⟨s, -, rfl⟩ := Option.map_eq_some_iff.mp named
    exact (entriesWithin_any_iff.mp distinct).2 e held
  · rcases List.mem_cons.mp other with rfl | outer
    · rfl
    · exact given p outer

theorem within_traitFilled (given : params.AreDistinct) {reference : TraitReference}
    (distinct : entriesWithin .any reference.2 = true) {t : Mapping}
    (h : traitFilled scope params name reference = .ok t) : entriesWithin .any t = true := by
  unfold traitFilled at h
  split at h
  · exact Template.within_fillEntries (areDistinct_traitParams given distinct) _ rfl h
  · cases h
    rfl

/-- Filling in a reference again neither fails nor changes what the method is completed by. -/
theorem map_foldl_repeated (given : params.AreDistinct) {reference : TraitReference}
    (distinct : entriesWithin .any reference.2 = true)
    (before between after : List TraitReference) (m : Mapping) :
    ((before ++ reference :: (between ++ reference :: after)).mapM
        (traitFilled scope params name)).map (List.foldl Mapping.merge m) =
      ((before ++ reference :: (between ++ after)).mapM
        (traitFilled scope params name)).map (List.foldl Mapping.merge m) := by
  simp only [List.mapM_append, List.mapM_cons]
  cases first : before.mapM (traitFilled scope params name) with
  | error f => rfl
  | ok ts =>
    cases own : traitFilled scope params name reference with
    | error f => rfl
    | ok t =>
      cases second : between.mapM (traitFilled scope params name) with
      | error f => rfl
      | ok us =>
        cases last : after.mapM (traitFilled scope params name) with
        | error f => rfl
        | ok vs =>
          have within := within_traitFilled given distinct own
          exact congrArg Except.ok (Mapping.foldl_merge_repeated within ts us vs m)

/-! ## The method that comes out -/

theorem outcome_ofDeclaration {traits own : List TraitReference}
    {inherited : List (Option String)} {v : Value}
    (said : Facet.references (v.entries.get "is") = .ok own) :
    (ofDeclaration scope params traits inherited name v).outcome =
      ((traits ++ own).mapM (traitFilled scope params name)).map
        (List.foldl Mapping.merge v.entries) >>= ofMapping scope name inherited := by
  unfold ofDeclaration
  simp only [Traced.outcome_bind, Traced.outcome_ofExcept, said, ok_bind, outcome_applyTraits]

theorem without_foldl_merge {m n : Mapping} {facet : String}
    (same : m.without facet = n.without facet) (ts : List Mapping) :
    (ts.foldl Mapping.merge m).without facet = (ts.foldl Mapping.merge n).without facet := by
  induction ts generalizing m n with
  | nil => exact same
  | cons t ts ih => exact ih (by rw [Mapping.without_merge, same, Mapping.without_merge])

/-- What a method says of its traits is not seen once they are applied. -/
theorem ofMapping_foldl_congr (inherited : List (Option String)) {m n : Mapping}
    (same : m.without "is" = n.without "is") (ts : List Mapping) :
    ofMapping scope name inherited (ts.foldl Mapping.merge m) =
      ofMapping scope name inherited (ts.foldl Mapping.merge n) := by
  rw [← ofMapping_without, without_foldl_merge same, ofMapping_without]

/-- To refer to a trait again, with the same parameters and after it has been referred to, changes
nothing in a method, whether the resource refers to the trait or the method itself. -/
theorem ofDeclaration_repeated {traits own traits' own' before between after : List TraitReference}
    {reference : TraitReference} {inherited : List (Option String)} {v v' : Value}
    (said : Facet.references (v.entries.get "is") = .ok own)
    (said' : Facet.references (v'.entries.get "is") = .ok own')
    (rest : v'.entries.without "is" = v.entries.without "is")
    (once : traits ++ own = before ++ reference :: (between ++ after))
    (again : traits' ++ own' = before ++ reference :: (between ++ reference :: after))
    (given : params.AreDistinct) (distinct : entriesWithin .any reference.2 = true) :
    (ofDeclaration scope params traits' inherited name v').outcome =
      (ofDeclaration scope params traits inherited name v).outcome := by
  rw [outcome_ofDeclaration said', again, map_foldl_repeated given distinct, ← once,
    outcome_ofDeclaration said, map_bind, map_bind]
  exact bind_congr_ok fun ts _ => ofMapping_foldl_congr inherited rest ts

/-- Two traits that share a parameter: the first leaves another null, the second fills it. -/
def pagingScope : Scope where
  root := [(.text "traits", .record [
    ("paged", .record [("queryParameters", .record [
      ("page", .record [("description", .text "<<text>>")]), ("size", .null)])]),
    ("sized", .record [("queryParameters", .record [
      ("size", .record [("minLength", .int 1)]), ("page", .record [("example", .int 3)])])])])]
  libraries := []
  mediaType := "application/json"

/-- The first trait, with its parameter. -/
def pagedReference : TraitReference := ("paged", [(.text "text", .text "which one")])

/-- A method with the second trait. -/
def sizedMethod : Value := .record [("is", .text "sized"), ("description", .text "lists")]

/-- The method with the first trait behind the second. -/
def pagedMethod : Value :=
  .record [("is", .list [.text "sized", .record [("paged", .map pagedReference.2)]]),
    ("description", .text "lists")]

/-- The first trait of the resource is named again by the method, behind a trait that has filled
what it left open. -/
theorem ofDeclaration_repeated_paged :
    ∃ method,
      (ofDeclaration pagingScope [] [pagedReference] [] "get" pagedMethod).outcome = .ok method ∧
        (ofDeclaration pagingScope [] [pagedReference] [] "get" sizedMethod).outcome =
          .ok method ∧
        (method.queryParameters.map fun p => (p.name, p.description, p.minLength)) =
          [("page", some "which one", none), ("size", none, some 1)] := by
  have computed : (ofDeclaration pagingScope [] [pagedReference] [] "get"
      sizedMethod).outcome.toOption.map
        (fun method => method.queryParameters.map fun p => (p.name, p.description, p.minLength)) =
      some [("page", some "which one", none), ("size", none, some 1)] := by
    decide +kernel
  obtain ⟨method, came, parameters⟩ := exists_ok_of_toOption computed
  have once : [pagedReference] ++ [("sized", [])] =
    [] ++ pagedReference :: ([("sized", [])] ++ []) := rfl
  have again : [pagedReference] ++ [("sized", []), pagedReference] =
    [] ++ pagedReference :: ([("sized", [])] ++ pagedReference :: []) := rfl
  have given : Params.AreDistinct [] := by simp [Params.AreDistinct]
  have same : (ofDeclaration pagingScope [] [pagedReference] [] "get" pagedMethod).outcome =
      (ofDeclaration pagingScope [] [pagedReference] [] "get" sizedMethod).outcome :=
    ofDeclaration_repeated rfl rfl rfl once again given rfl
  exact ⟨method, same.trans came, came, parameters⟩

end Method

end RamlDocs
