import RamlDocs.Proofs.Definition.Reading
import RamlDocs.Proofs.Definition.ResourceKeys
import RamlDocs.Proofs.Definition.Verbatim
import RamlDocs.Proofs.Value.Depth

/-!
# Resources of ordinary definitions

In a scope with an ordinary root and no libraries, traits and resource types complete an ordinary
mapping to an ordinary mapping, and every method can be read from it. A resource can be read to a
depth beyond that of its value, if no resource type brings resources of its own
(`Resource.returns_ofDeclaration`): below the completed resource stands only what stands below the
resource.
-/

namespace RamlDocs

open Template (Params)

theorem verbatim_ordinary : ordinary.Verbatim where
  keys k h := by
    obtain ⟨s, rfl⟩ := exists_text_of_isOrdinaryKey h
    exact isLiteral_of_isUnbracketed h
  scalars v h := by
    cases v with
    | text s => exact isLiteral_of_isUnbracketed h
    | _ => rfl
  methods := by decide
  traits := by decide

/-- A scope in which all that can be looked up is ordinary: names lead to an ordinary root or
nowhere. -/
structure Scope.Ordinary (scope : Scope) : Prop where
  root : scope.root.Ordinary
  libraries : scope.libraries = []

variable {scope : Scope} {k : Key} {v : Value} {m : Mapping}

theorem Scope.Ordinary.of_lookup (h : scope.Ordinary) {kind name : String}
    (found : scope.lookup kind name = .map m) : m.Ordinary := by
  have kinds := Value.within_entries (Value.within_get h.root kind)
  exact ((entriesWithin_iff.mp kinds).2 _ (Scope.mem_of_lookup h.libraries found)).2

/-! ## Methods -/

theorem Response.returns_ofDeclaration (scope : Scope) (key : ordinary.key k = true)
    (h : v.Ordinary) : Returns (Response.ofDeclaration scope k v) := by
  have entries := Value.within_entries h
  refine (Key.returns_asText key).bind fun code _ => ?_
  refine (Facet.returns_text? (Value.within_get entries "description")).bind fun _ _ => ?_
  refine (Body.returns_all scope (Value.within_get entries "body")).bind fun bodies _ => ?_
  exact ⟨_, rfl, trivial⟩

theorem Method.returns_ofMapping (scope : Scope) (name : String) (inherited : List (Option String))
    (h : m.Ordinary) : Returns (Method.ofMapping scope name inherited m) := by
  have responses : Returns
      ((m.get "responses").entries.mapM fun e => Response.ofDeclaration scope e.1 e.2) :=
    returns_mapM_entries (Value.within_entries (Value.within_get h "responses"))
      fun _ _ => Response.returns_ofDeclaration scope
  refine (Facet.returns_text? (Value.within_get h "description")).bind fun description _ => ?_
  refine (Facet.returns_securedBy (Value.within_get h "securedBy")).bind fun own _ => ?_
  refine (Parameter.returns_all (Value.within_get h "queryParameters") []).bind fun _ _ => ?_
  refine (Body.returns_all scope (Value.within_get h "body")).bind fun bodies _ => ?_
  refine responses.bind fun responses _ => ?_
  exact ⟨_, rfl, trivial⟩

theorem Method.yields_applyTrait (hs : scope.Ordinary) (params : Params) (name : String)
    (h : m.Ordinary) (reference : TraitReference) :
    Yields (Method.applyTrait scope params name m reference).outcome Mapping.Ordinary := by
  unfold Method.applyTrait
  cases found : scope.lookup "traits" reference.1 with
  | map trait =>
    have written := hs.of_lookup found
    have filled := verbatim_ordinary.fillEntries_eq
      (Params.ofMapping reference.2 ++ (("methodName", .text name) :: params)) written
    refine Traced.yields_bind (P := Mapping.Ordinary) ⟨trait, filled, written⟩ fun d hd => ?_
    exact ⟨_, rfl, entriesWithin_merge d h hd⟩
  | _ => exact ⟨m, rfl, h⟩

theorem Method.yields_applyTraits (hs : scope.Ordinary) (params : Params) (name : String)
    (h : m.Ordinary) (references : List TraitReference) :
    Yields (Method.applyTraits scope params name m references).outcome Mapping.Ordinary := by
  induction references generalizing m with
  | nil => exact ⟨m, rfl, h⟩
  | cons reference rest ih =>
    exact Traced.yields_bind (Method.yields_applyTrait hs params name h reference)
      fun _ completed => ih completed

theorem Method.returns_ofDeclaration (hs : scope.Ordinary) (params : Params)
    (traits : List TraitReference) (inherited : List (Option String)) (name : String)
    (h : v.Ordinary) :
    Returns (Method.ofDeclaration scope params traits inherited name v).outcome := by
  have entries := Value.within_entries h
  refine Traced.yields_bind (Facet.returns_references (Value.within_get entries "is")) ?_
  intro own _
  refine Traced.yields_bind (Method.yields_applyTraits hs params name entries (traits ++ own)) ?_
  intro m completed
  exact Method.returns_ofMapping scope name inherited completed

theorem Resource.returns_methodsOf (hs : scope.Ordinary) (params : Params) (h : m.Ordinary) :
    Returns (Resource.methodsOf scope params m).outcome := by
  refine Traced.yields_bind (Facet.returns_references (Value.within_get h "is")) fun traits _ => ?_
  refine Traced.yields_bind (Facet.returns_securedBy (Value.within_get h "securedBy")) ?_
  intro inherited _
  refine Traced.returns_mapList fun method mem => ?_
  obtain ⟨e, held, named⟩ := List.mem_filterMap.mp mem
  obtain ⟨name, -, rfl⟩ := Option.map_eq_some_iff.mp named
  exact Method.returns_ofDeclaration hs params traits inherited name
    ((entriesWithin_iff.mp h).2 e held).2

/-! ## Resource types -/

namespace ResourceType

theorem returns_reference? (h : m.Ordinary) : Returns (reference? m) :=
  (Facet.returns_references (Value.within_get h "type")).map _

theorem yields_apply (hs : scope.Ordinary) (params : Params) (limit : Nat) (h : m.Ordinary) :
    Yields (apply scope params limit m).outcome fun completed => completed.2.Ordinary := by
  induction limit generalizing m with
  | zero =>
    refine Traced.yields_bind (returns_reference? h) fun reference _ => ?_
    cases reference with
    | none => exact ⟨_, rfl, h⟩
    | some reference => exact ⟨_, rfl, h⟩
  | succ limit ih =>
    refine Traced.yields_bind (returns_reference? h) fun reference _ => ?_
    cases reference with
    | none => exact ⟨_, rfl, h⟩
    | some reference =>
      have known := yields_definition? verbatim_ordinary params reference
        fun d found => hs.of_lookup found
      refine Traced.yields_bind known fun found declared => ?_
      cases found with
      | none => exact ⟨_, rfl, h⟩
      | some d =>
        refine Traced.yields_bind (ih (hs.of_lookup (declared d rfl))) fun completed inner => ?_
        refine Traced.yields_bind (yields_contribution verbatim_ordinary rfl inner) ?_
        intro applied ha
        exact ⟨_, rfl, entriesWithin_complete verbatim_ordinary h ha⟩

/-- No definition of a resource type brings a resource. -/
def Flat (root : Mapping) : Prop :=
  ∀ e ∈ (root.get "resourceTypes").entries, ∀ f ∈ e.2.entries, resourceKey? f.1 = none

theorem childrenOf_of_chain (hs : scope.Ordinary) (flat : Flat scope.root) {params : Params}
    {limit : Nat} {ds : List Mapping} (h : chain scope params limit m = .ok ds) :
    ∀ d ∈ ds, Resource.childrenOf d = [] := by
  refine forall_chain (fun reference d defined => ?_) h
  have known := yields_definition? verbatim_ordinary params reference
    fun d found => hs.of_lookup found
  have declared := Scope.mem_of_lookup hs.libraries (known.of_eq_ok defined d rfl)
  rw [List.eq_nil_iff_forall_not_mem]
  intro c mem
  obtain ⟨key, held⟩ := Resource.mem_childrenOf_iff.mp mem
  rw [flat _ declared _ held] at key
  cases key

end ResourceType

/-! ## Resources -/

/-- To a depth beyond that of its value a resource is read in full. -/
theorem Resource.returns_ofDeclaration (hs : scope.Ordinary)
    (flat : ResourceType.Flat scope.root) {depth : Nat} (parentUri : String)
    {declared : String × Value} (h : declared.2.Ordinary) (deep : declared.2.depth < depth) :
    Returns (Resource.ofDeclaration scope parentUri depth declared).outcome := by
  induction depth generalizing parentUri declared with
  | zero => cases deep
  | succ depth ih =>
    obtain ⟨relativeUri, v⟩ := declared
    obtain ⟨⟨type, m⟩, completed, hm⟩ := ResourceType.yields_apply hs
      (Resource.params (parentUri ++ relativeUri)) ResourceType.chainLimit (Value.within_entries h)
    obtain ⟨ds, followed, completion⟩ := ResourceType.completion_of_apply completed
    -- no definition brings a resource, so nothing below is deeper than it was as declared
    have below : ∀ c ∈ Resource.childrenOf m, c.2.depth < depth := by
      refine completion.forall_children (P := fun u => u.depth < depth) ?_ ?_ ?_
      · intro u w hu hw
        obtain ⟨bound, rfl⟩ := Nat.exists_eq_add_one_of_ne_zero (Nat.ne_zero_of_lt hu)
        have le := Value.depth_completedBy (Nat.le_of_lt_succ hu) (Nat.le_of_lt_succ hw)
        exact Nat.lt_succ_of_le le
      · intro c mem
        have inside := Value.depth_lt_of_mem_entries (Resource.mem_childrenOf_iff.mp mem).2
        exact Nat.lt_of_lt_of_le inside (Nat.le_of_lt_succ deep)
      · intro d hd c mem
        rw [ResourceType.childrenOf_of_chain hs flat followed d hd] at mem
        cases mem
    refine Traced.yields_bind (P := fun c => c = (type, m)) ⟨_, completed, rfl⟩ ?_
    rintro _ rfl
    refine Traced.yields_bind (Resource.returns_methodsOf hs _ hm) fun methods _ => ?_
    refine Traced.yields_bind (Traced.returns_mapList fun c mem => ?_) fun children _ => ?_
    · have held := (Resource.mem_childrenOf_iff.mp mem).2
      exact ih _ ((entriesWithin_iff.mp hm).2 _ held).2 (below c mem)
    refine Traced.yields_bind (Facet.returns_text? (Value.within_get hm "displayName")) ?_
    intro displayName _
    refine Traced.yields_bind (Facet.returns_text? (Value.within_get hm "description")) ?_
    intro description _
    refine Traced.yields_bind (Parameter.returns_all (Value.within_get hm "uriParameters") _) ?_
    intro uriParameters _
    exact ⟨_, rfl, trivial⟩

end RamlDocs
