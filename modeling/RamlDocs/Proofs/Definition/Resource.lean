import RamlDocs.Definition.Resource
import RamlDocs.Proofs.Definition.MethodNames
import RamlDocs.Proofs.Outcome

/-!
# Resources from their declarations

`Resource.Expansion` says of every part of a resource where it comes from: the mapping as declared
is completed by the chain of its types, and the completed mapping gives the methods, the resources
one level down and all else. Methods keep the names and the order of their keys, whatever traits
they have (`names_methodsOf`). How deep the expansion may go matters only as long as it is not deep
enough (`ofDeclaration_mono`).
-/

namespace RamlDocs

open Template (Params)

/-! ## Trees -/

mutual

/-- A resource and then the resources below it, in the order of a walk. -/
def Resource.subtree : Resource → List Resource
  | ⟨relativeUri, uri, displayName, description, type, methods, children, uriParameters,
      annotations⟩ =>
    ⟨relativeUri, uri, displayName, description, type, methods, children, uriParameters,
      annotations⟩ :: subtrees children

/-- The resources of several trees, one tree after another. -/
def Resource.subtrees : List Resource → List Resource
  | [] => []
  | r :: rs => r.subtree ++ subtrees rs

end

/-! ## Expansion -/

/-- How a resource comes from what is declared under a relative URI: `m` is the completed mapping,
and the resources below are expanded to the given depth. -/
structure Resource.Expansion (scope : Scope) (parentUri : String) (depth : Nat)
    (declared : String × Value) (r : Resource) (m : Mapping) : Prop where
  relativeUri : r.relativeUri = declared.1
  uri : r.uri = parentUri ++ declared.1
  completed : (ResourceType.apply scope (Resource.params (parentUri ++ declared.1))
    ResourceType.chainLimit declared.2.entries).outcome = .ok (r.type, m)
  methods : (Resource.methodsOf scope (Resource.params (parentUri ++ declared.1)) m).outcome =
    .ok r.methods
  children : (Resource.childrenOf m).mapM (fun c =>
    (Resource.ofDeclaration scope (parentUri ++ declared.1) depth c).outcome) = .ok r.children
  displayName : Facet.text? (m.get "displayName") = .ok r.displayName
  description : Facet.text? (m.get "description") = .ok r.description
  uriParameters : Parameter.all (m.get "uriParameters") (Uri.variableNames declared.1) =
    .ok r.uriParameters
  annotations : r.annotations = scope.annotations m

variable {scope : Scope} {parentUri : String} {depth : Nat} {declared : String × Value}
  {r : Resource} {m : Mapping}

theorem Resource.expansion_of_ofDeclaration
    (h : (Resource.ofDeclaration scope parentUri depth declared).outcome = .ok r) :
    ∃ below m, depth = below + 1 ∧ Resource.Expansion scope parentUri below declared r m := by
  cases depth with
  | zero => cases h
  | succ below =>
    obtain ⟨relativeUri, v⟩ := declared
    obtain ⟨⟨type, m⟩, completed, h⟩ := Traced.outcome_bind_eq_ok.mp h
    obtain ⟨methods, hm, h⟩ := Traced.outcome_bind_eq_ok.mp h
    obtain ⟨children, hc, h⟩ := Traced.outcome_bind_eq_ok.mp h
    obtain ⟨displayName, hn, h⟩ := Traced.outcome_bind_eq_ok.mp h
    obtain ⟨description, hd, h⟩ := Traced.outcome_bind_eq_ok.mp h
    obtain ⟨uriParameters, hu, h⟩ := Traced.outcome_bind_eq_ok.mp h
    rw [Traced.outcome_mapList] at hc
    cases h
    exact ⟨below, m, rfl, {
      relativeUri := rfl, uri := rfl, completed, methods := hm, children := hc, displayName := hn
      description := hd, uriParameters := hu, annotations := rfl }⟩

theorem Resource.Expansion.ofDeclaration
    (h : Resource.Expansion scope parentUri depth declared r m) :
    (Resource.ofDeclaration scope parentUri (depth + 1) declared).outcome = .ok r := by
  obtain ⟨relativeUri, v⟩ := declared
  refine Traced.outcome_bind_eq_ok.mpr ⟨(r.type, m), h.completed, ?_⟩
  refine Traced.outcome_bind_eq_ok.mpr ⟨r.methods, h.methods, ?_⟩
  refine Traced.outcome_bind_eq_ok.mpr ⟨r.children, ?_, ?_⟩
  · rw [Traced.outcome_mapList]
    exact h.children
  refine Traced.outcome_bind_eq_ok.mpr ⟨r.displayName, h.displayName, ?_⟩
  refine Traced.outcome_bind_eq_ok.mpr ⟨r.description, h.description, ?_⟩
  refine Traced.outcome_bind_eq_ok.mpr ⟨r.uriParameters, h.uriParameters, ?_⟩
  have uri : r.uri = parentUri ++ relativeUri := h.uri
  have relative : r.relativeUri = relativeUri := h.relativeUri
  rw [Traced.outcome_pure, ← h.annotations, ← uri, ← relative]
  cases r
  rfl

/-- A resource one level down is expanded from a key of the completed mapping. -/
theorem Resource.Expansion.exists_child
    (h : Resource.Expansion scope parentUri depth declared r m) {child : Resource}
    (mem : child ∈ r.children) :
    ∃ below d inner, d ∈ Resource.childrenOf m ∧
      Resource.Expansion scope r.uri below d child inner := by
  obtain ⟨d, key, came⟩ := exists_of_mem_mapM h.children mem
  obtain ⟨below, inner, _, expansion⟩ := Resource.expansion_of_ofDeclaration came
  exact ⟨below, d, inner, key, h.uri ▸ expansion⟩

/-- The depth to which a resource is expanded matters only as long as it is not deep enough. -/
theorem Resource.ofDeclaration_eq_tooDeep_or {deeper : Nat} (le : depth ≤ deeper)
    (parentUri : String) (declared : String × Value) :
    (Resource.ofDeclaration scope parentUri depth declared).outcome = .error .tooDeep ∨
      (Resource.ofDeclaration scope parentUri depth declared).outcome =
        (Resource.ofDeclaration scope parentUri deeper declared).outcome := by
  induction depth generalizing deeper parentUri declared with
  | zero => exact .inl rfl
  | succ depth ih =>
    obtain ⟨below, rfl⟩ := Nat.exists_eq_add_of_le' le
    rw [← Nat.add_assoc, Resource.ofDeclaration, Resource.ofDeclaration]
    simp only [Traced.outcome_bind]
    refine bind_eq_error_or fun c _ => bind_eq_error_or fun methods _ => ?_
    rw [Traced.outcome_mapList, Traced.outcome_mapList]
    rcases mapM_eq_error_or fun d (_ : d ∈ Resource.childrenOf c.2) =>
      ih (Nat.le_add_left depth below) (parentUri ++ declared.1) d with fails | same
    · exact .inl (by rw [fails, error_bind])
    · exact .inr (by rw [same])

/-- A resource that was expanded to some depth is the same when it is expanded further. -/
theorem Resource.ofDeclaration_mono {deeper : Nat} (le : depth ≤ deeper)
    (h : (Resource.ofDeclaration scope parentUri depth declared).outcome = .ok r) :
    (Resource.ofDeclaration scope parentUri deeper declared).outcome = .ok r := by
  rcases Resource.ofDeclaration_eq_tooDeep_or le parentUri declared with fails | same
  · rw [fails] at h
    cases h
  · rw [← same, h]

/-! ## Methods -/

theorem Method.name_ofDeclaration {params : Params} {traits : List TraitReference}
    {inherited : List (Option String)} {name : String} {v : Value} {method : Method}
    (h : (Method.ofDeclaration scope params traits inherited name v).outcome = .ok method) :
    method.name = name := by
  obtain ⟨own, _, h⟩ := Traced.outcome_bind_eq_ok.mp h
  obtain ⟨completed, _, h⟩ := Traced.outcome_bind_eq_ok.mp h
  rw [Traced.outcome_ofExcept] at h
  obtain ⟨description, _, h⟩ := bind_eq_ok.mp h
  obtain ⟨securedBy, _, h⟩ := bind_eq_ok.mp h
  obtain ⟨queryParameters, _, h⟩ := bind_eq_ok.mp h
  obtain ⟨bodies, _, h⟩ := bind_eq_ok.mp h
  obtain ⟨responses, _, h⟩ := bind_eq_ok.mp h
  cases h
  rfl

/-- Whatever traits apply, a mapping has one method for each key of a method, in order. -/
theorem Resource.names_methodsOf {params : Params} {methods : List Method}
    (h : (Resource.methodsOf scope params m).outcome = .ok methods) :
    methods.map (·.name) = m.methodNames := by
  obtain ⟨traits, _, h⟩ := Traced.outcome_bind_eq_ok.mp h
  obtain ⟨inherited, _, h⟩ := Traced.outcome_bind_eq_ok.mp h
  rw [Traced.outcome_mapList] at h
  rw [map_eq_of_mapM h (k := Prod.fst) fun e _ method hm => Method.name_ofDeclaration hm]
  unfold Mapping.methodNames
  rw [List.map_filterMap]
  congr 1
  funext e
  cases httpMethod? e.1 <;> rfl

/-! ## Resources without a type -/

/-- Without a type there is nothing to complete. -/
theorem ResourceType.apply_of_untyped {params : Params} {limit : Nat} {type : Option String}
    {result : Mapping} (untyped : m.has "type" = false)
    (h : (ResourceType.apply scope params limit m).outcome = .ok (type, result)) : result = m := by
  have unnamed : ResourceType.reference? m = .ok none := by
    unfold ResourceType.reference?
    rw [Mapping.get_of_has_eq_false untyped]
    rfl
  cases limit with
  | zero =>
    rw [ResourceType.apply, unnamed] at h
    cases h
    rfl
  | succ limit =>
    rw [ResourceType.apply, unnamed] at h
    cases h
    rfl

end RamlDocs
