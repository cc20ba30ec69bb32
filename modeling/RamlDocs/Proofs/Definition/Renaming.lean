import RamlDocs.Proofs.Definition.Agreement
import RamlDocs.Proofs.Definition.References
import RamlDocs.Proofs.Definition.Resource

/-!
# Expansion in a scope with other names

A scope may declare what another declares under other names (`Scope.Renames`). A resource whose
references are renamed accordingly is then expanded in the one as it is in the other, but for the
recorded names of types: the outcomes, faults included, are the same
(`Resource.ofDeclaration_renamed`).

Only what the resource itself says is renamed. What resource types bring along is not, so it must
refer to declarations that keep their names (`ResourceType.Spares`), wherever a resource is met in
the expansion (`Resource.Met`). Traits bring no references that count.

The induction is on the depth of the expansion. One step completes the renamed mapping to the
renamed completed mapping (`ResourceType.apply_renamed`), so the resources below it are renamed
again.
-/

namespace RamlDocs

open Template (Params)

/-! ## Scopes -/

/-- A name that some reference is read as. -/
def Named (allowed : Reference → Prop) (kind : Kind) (name : String) : Prop :=
  ∃ k, allowed (kind, k) ∧ k.asText = .ok name

/-- The scope `t` declares under new names what `s` declares, as far as the references are allowed,
and the two agree on all else. -/
structure Scope.Renames (s t : Scope) (ρ : Renaming) (allowed : Reference → Prop) : Prop where
  faithful : ρ.Faithful allowed
  lookup : ∀ kind name, Named allowed kind name →
    t.lookup kind.key (ρ kind name) = s.lookup kind.key name
  readsAlike : t.ReadsAlike s

/-- A reference that is read under the name it has. -/
def Renaming.Keeps (ρ : Renaming) (r : Reference) : Prop :=
  ∀ name, r.2.asText = .ok name → ρ r.1 name = name

variable {s t : Scope} {ρ : Renaming} {allowed : Reference → Prop} {params : Params}
  {kind : Kind} {v : Value} {m : Mapping}

theorem Renaming.Keeps.key_eq {r : Reference} (h : ρ.Keeps r) : ρ.key r.1 r.2 = r.2 := by
  obtain ⟨kind, k⟩ := r
  cases k with
  | text name =>
    have kept : ρ kind name = name := h name rfl
    rw [Renaming.key, kept]
  | _ => rfl

/-- What is read as a reference stands there as one. -/
theorem named_of_references {rs : List (String × Mapping)} (h : Facet.references v = .ok rs)
    (hv : ∀ r ∈ v.references (.names kind), allowed r) {x : String × Mapping} (mem : x ∈ rs) :
    Named allowed kind x.1 := by
  rw [Value.references_names] at hv
  obtain ⟨lists, computed, rfl⟩ := map_eq_ok.mp h
  obtain ⟨list, listed, inside⟩ := List.mem_flatten.mp mem
  obtain ⟨item, held, read⟩ := exists_of_mem_mapM computed listed
  cases item with
  | text name =>
    cases read
    obtain rfl := List.mem_singleton.mp inside
    exact ⟨.text name, hv _ (List.mem_flatMap.mpr ⟨_, held, List.mem_singleton_self _⟩), rfl⟩
  | map n =>
    obtain ⟨e, entry, named⟩ := exists_of_mem_mapM read inside
    obtain ⟨name, written, rfl⟩ := map_eq_ok.mp named
    exact ⟨e.1, hv _ (List.mem_flatMap.mpr ⟨_, held, List.mem_map_of_mem entry⟩), written⟩
  | _ =>
    cases read
    cases inside

/-! ## Mappings -/

theorem forall_references_get {P : Reference → Prop} {place inner : Place} {name : String}
    (below : place.below (.text name) = inner) (h : ∀ r ∈ referencesOfEntries place m, P r) :
    ∀ r ∈ (m.get name).references inner, P r := by
  rw [← below]
  exact forall_references_find? h (.text name)

theorem has_renamedEntries (m : Mapping) (name : String) :
    Mapping.has (renamedEntries ρ .resource m) name = m.has name := by
  have found : Mapping.find? (renamedEntries ρ .resource m) (.text name) = _ :=
    find?_renamedEntries fun _ _ => rfl
  unfold Mapping.has Mapping.get?
  rw [found, Option.isSome_map]

theorem renamedEntries_without (m : Mapping) (name : String) :
    renamedEntries ρ .resource (m.without name) =
      Mapping.without (renamedEntries ρ .resource m) name := by
  unfold Mapping.without
  rw [renamedEntries_eq_map, renamedEntries_eq_map, List.filter_map]
  rfl

theorem forall_references_without {P : Reference → Prop} {place : Place}
    (h : ∀ r ∈ referencesOfEntries place m, P r) (name : String) :
    ∀ r ∈ referencesOfEntries place (m.without name), P r := by
  intro r mem
  obtain ⟨e, held, refers⟩ := mem_referencesOfEntries.mp mem
  exact h r (mem_referencesOfEntries.mpr ⟨e, (List.mem_filter.mp held).1, refers⟩)

/-! ## Resource types -/

namespace ResourceType

/-- A definition is met along the chain of types of a mapping, however long the chain is. -/
inductive Meets (scope : Scope) (params : Params) : Mapping → Mapping → Prop
  | named {m d : Mapping} {r : String × Mapping} (refers : reference? m = .ok (some r))
      (defined : definition? scope params r = .ok (some d)) : Meets scope params m d
  | further {m d e : Mapping} {r : String × Mapping} (refers : reference? m = .ok (some r))
      (defined : definition? scope params r = .ok (some d)) (rest : Meets scope params d e) :
      Meets scope params m e

/-- What its type contributes to a mapping, if it has a type that is known. -/
def contributed? (scope : Scope) (params : Params) : Nat → Mapping → Except Fault (Option Mapping)
  | 0, _ => .ok none
  | limit + 1, m => do
    match ← reference? m with
    | none => .ok none
    | some reference =>
      match ← definition? scope params reference with
      | none => .ok none
      | some filled => do
        let (_, definition) ← (apply scope params limit filled).outcome
        (contribution m [] definition).map some

/-- What the definitions that complete a mapping refer to satisfies `P`: the types along the chain,
and all references in what they contribute. -/
structure Spares (scope : Scope) (params : Params) (P : Reference → Prop) (m : Mapping) :
    Prop where
  chain : ∀ d, Meets scope params m d →
    ∀ r ∈ (d.get "type").references (.names .resourceType), P r
  contribution : ∀ applied, contributed? scope params chainLimit m = .ok (some applied) →
    ∀ r ∈ referencesOfEntries .resource applied, P r

theorem Spares.mono {P Q : Reference → Prop} (h : Spares s params P m) (weaker : ∀ r, P r → Q r) :
    Spares s params Q m where
  chain d met r mem := weaker r (h.chain d met r mem)
  contribution applied given r mem := weaker r (h.contribution applied given r mem)

theorem named_of_reference? {r : String × Mapping} (h : reference? m = .ok (some r))
    (hm : ∀ r ∈ (m.get "type").references (.names .resourceType), allowed r) :
    Named allowed .resourceType r.1 := by
  obtain ⟨rs, referred, first⟩ := map_eq_ok.mp h
  exact named_of_references referred hm (List.mem_of_head? first)

theorem reference?_renamed (faithful : ρ.Faithful allowed)
    (hm : ∀ r ∈ referencesOfEntries .resource m, allowed r) :
    reference? (renamedEntries ρ .resource m) =
      (reference? m).map (Option.map (ρ.applied .resourceType)) := by
  have own := forall_references_get Place.below_type hm
  unfold reference?
  rw [get_renamedEntries (by simp) Place.below_type, references_renamed faithful own]
  cases Facet.references (m.get "type") <;> simp [Except.map]

theorem definition?_renamed (h : s.Renames t ρ allowed) (params : Params) {r : String × Mapping}
    (named : Named allowed .resourceType r.1) :
    definition? t params (ρ.applied .resourceType r) = definition? s params r := by
  have found : t.lookup "resourceTypes" (ρ .resourceType r.1) = s.lookup "resourceTypes" r.1 :=
    h.lookup .resourceType r.1 named
  unfold definition? Renaming.applied
  rw [found]

/-- Applying a resource type is completing by what it contributes. -/
theorem outcome_apply (limit : Nat) (m : Mapping) :
    (apply s params limit m).outcome = (do
      let reference ← reference? m
      let applied ← contributed? s params limit m
      .ok (reference.map (·.1), applied.elim m (complete m))) := by
  cases limit with
  | zero =>
    rw [apply, Traced.outcome_bind, Traced.outcome_ofExcept]
    cases reference? m with
    | error f => rfl
    | ok found => cases found <;> rfl
  | succ limit =>
    rw [apply, contributed?, Traced.outcome_bind, Traced.outcome_ofExcept]
    cases reference? m with
    | error f => rfl
    | ok found =>
      cases found with
      | none => rfl
      | some r =>
        simp only [ok_bind, Traced.outcome_bind, Traced.outcome_ofExcept]
        cases definition? s params r with
        | error f => rfl
        | ok definition =>
          cases definition with
          | none => rfl
          | some filled =>
            simp only [ok_bind, Traced.outcome_bind, Traced.outcome_ofExcept]
            cases (apply s params limit filled).outcome with
            | error f => rfl
            | ok inner => cases h : contribution m [] inner.2 <;> simp [ok_bind, h] <;> rfl

theorem exists_of_contributed? {limit : Nat} {applied : Mapping}
    (h : contributed? s params limit m = .ok (some applied)) :
    ∃ r filled type definition below, definition? s params r = .ok (some filled) ∧
      (apply s params below filled).outcome = .ok (type, definition) ∧
        contribution m [] definition = .ok applied := by
  cases limit with
  | zero => cases h
  | succ limit =>
    obtain ⟨found, -, h⟩ := bind_eq_ok.mp h
    cases found with
    | none => cases h
    | some r =>
      obtain ⟨declared, defined, h⟩ := bind_eq_ok.mp h
      cases declared with
      | none => cases h
      | some filled =>
        obtain ⟨⟨type, definition⟩, completed, h⟩ := bind_eq_ok.mp h
        obtain ⟨brought, contributes, same⟩ := map_eq_ok.mp h
        cases same
        exact ⟨r, filled, type, definition, limit, defined, completed, contributes⟩

/-- What is contributed depends on the definition that is named, on what completes the definition
and on the keys of the mapping. -/
theorem contributed?_congr {n : Mapping} {f : String × Mapping → String × Mapping} {limit : Nat}
    (refers : reference? n = (reference? m).map (Option.map f))
    (defines : ∀ r, reference? m = .ok (some r) →
      definition? t params (f r) = definition? s params r)
    (completes : ∀ r filled, reference? m = .ok (some r) →
      definition? s params r = .ok (some filled) →
        (apply t params limit filled).outcome = (apply s params limit filled).outcome)
    (contributes : contribution n [] = contribution m []) :
    contributed? t params (limit + 1) n = contributed? s params (limit + 1) m := by
  rw [contributed?, contributed?, refers]
  cases named : reference? m with
  | error f => simp only [Except.map, error_bind]
  | ok found =>
    cases found with
    | none => simp only [Except.map, ok_bind, Option.map_none]
    | some r =>
      simp only [Except.map, ok_bind, Option.map_some, defines r named]
      cases declared : definition? s params r with
      | error f => simp only [error_bind]
      | ok definition =>
        cases definition with
        | none => simp only [ok_bind]
        | some filled => simp only [ok_bind, completes r filled named declared, contributes]

/-- A chain of types whose names are kept is followed alike. -/
theorem apply_kept (h : s.Renames t ρ allowed)
    (own : ∀ r ∈ (m.get "type").references (.names .resourceType), allowed r ∧ ρ.Keeps r)
    (chain : ∀ d, Meets s params m d →
      ∀ r ∈ (d.get "type").references (.names .resourceType), allowed r ∧ ρ.Keeps r)
    (limit : Nat) : (apply t params limit m).outcome = (apply s params limit m).outcome := by
  have same : contributed? t params limit m = contributed? s params limit m := by
    induction limit generalizing m with
    | zero => rw [contributed?, contributed?]
    | succ limit ih =>
      refine contributed?_congr (f := id) ?_ (fun r refers => ?_)
        (fun r filled refers declared => ?_) rfl
      · cases reference? m <;> simp [Except.map]
      · obtain ⟨k, ⟨allow, keeps⟩, read⟩ := named_of_reference? refers own
        have kept : ρ.applied .resourceType r = r := by rw [Renaming.applied, keeps r.1 read]
        have defined := definition?_renamed h params ⟨k, allow, read⟩
        rwa [kept] at defined
      · rw [outcome_apply, outcome_apply, ih (chain filled (.named refers declared)) fun d met =>
          chain d (.further refers declared met)]
  rw [outcome_apply, outcome_apply, same]

/-- What a definition contributes to a mapping depends on the keys of the mapping alone. -/
theorem contribution_renamed (m : Mapping) (definition : List (Key × Value)) (done : Mapping) :
    contribution (renamedEntries ρ .resource m) done definition =
      contribution m done definition := by
  have targets : target? (renamedEntries ρ .resource m) = target? m := by
    funext k
    unfold target?
    simp only [has_renamedEntries]
  induction definition generalizing done with
  | nil => rfl
  | cons e definition ih =>
    obtain ⟨k, v⟩ := e
    unfold contribution
    simp only [targets, ih]

/-- The references of a completed mapping are those of the mapping and those of what it is
completed by. -/
theorem forall_references_complete {P : Reference → Prop} {applied : Mapping}
    (hm : ∀ r ∈ referencesOfEntries .resource m, P r)
    (ha : ∀ r ∈ referencesOfEntries .resource applied, P r) :
    ∀ r ∈ referencesOfEntries .resource (complete m applied), P r := by
  have merged := forall_references_merge applied (forall_references_without hm "type") ha
  unfold complete
  simp only
  split
  · exact merged
  · refine forall_references_put merged (by simp [Place.named]) fun r mem => ?_
    have own := forall_references_get Place.below_is hm
    have brought := forall_references_get Place.below_is ha
    rw [Place.below_is] at mem
    rw [Value.references_names] at own brought mem
    rw [Facet.asList, List.flatMap_append, List.mem_append] at mem
    exact mem.elim (own r) (brought r)

/-- Renaming commutes with completing a resource by what keeps its names. -/
theorem complete_renamed (faithful : ρ.Faithful allowed) {applied : Mapping}
    (hm : ∀ r ∈ referencesOfEntries .resource m, allowed r)
    (ha : ∀ r ∈ referencesOfEntries .resource applied, allowed r ∧ ρ.Keeps r) :
    complete (renamedEntries ρ .resource m) applied =
      renamedEntries ρ .resource (complete m applied) := by
  have same : renamedEntries ρ .resource applied = applied :=
    renamedEntries_eq_self applied fun r mem => (ha r mem).2.key_eq
  have typeless := forall_references_without hm "type"
  have merged : (Mapping.without (renamedEntries ρ .resource m) "type").merge applied =
      renamedEntries ρ .resource ((m.without "type").merge applied) := by
    rw [renamedEntries_merge faithful applied typeless fun r mem => (ha r mem).1,
      renamedEntries_without, same]
  have brought : Facet.asList (applied.get "is") =
      (Facet.asList (applied.get "is")).map (ρ.item .trait) := by
    rw [← asList_renamed, ← get_renamedEntries (by simp) Place.below_is, same]
  have traits : Facet.asList (Mapping.get (renamedEntries ρ .resource m) "is") ++
      Facet.asList (applied.get "is") = (Facet.asList (m.get "is") ++
        Facet.asList (applied.get "is")).map (ρ.item .trait) := by
    rw [List.map_append, ← brought, get_renamedEntries (by simp) Place.below_is, asList_renamed]
  unfold complete
  simp only [merged, traits, List.isEmpty_map]
  split
  · rfl
  · unfold Mapping.set
    rw [renamedEntries_put fun _ _ => rfl, Place.below_is, Value.renamed]
    rfl

/-- A renamed mapping is given the same as the mapping. -/
theorem contributed?_renamed (h : s.Renames t ρ allowed)
    (hm : ∀ r ∈ referencesOfEntries .resource m, allowed r)
    (chain : ∀ d, Meets s params m d →
      ∀ r ∈ (d.get "type").references (.names .resourceType), allowed r ∧ ρ.Keeps r)
    (limit : Nat) : contributed? t params limit (renamedEntries ρ .resource m) =
      contributed? s params limit m := by
  cases limit with
  | zero => rw [contributed?, contributed?]
  | succ limit =>
    refine contributed?_congr (reference?_renamed h.faithful hm) (fun r refers => ?_)
      (fun r filled refers declared => ?_) (funext fun _ => contribution_renamed m _ [])
    · exact definition?_renamed h params
        (named_of_reference? refers (forall_references_get Place.below_type hm))
    · exact apply_kept h (chain filled (.named refers declared))
        (fun d met => chain d (.further refers declared met)) limit

/-- The resource type of a renamed mapping completes it to the renamed completed mapping. -/
theorem apply_renamed (h : s.Renames t ρ allowed)
    (hm : ∀ r ∈ referencesOfEntries .resource m, allowed r)
    (spares : Spares s params (fun r => allowed r ∧ ρ.Keeps r) m) :
    (apply t params chainLimit (renamedEntries ρ .resource m)).outcome =
      (apply s params chainLimit m).outcome.map fun c =>
        (c.1.map (ρ .resourceType), renamedEntries ρ .resource c.2) := by
  rw [outcome_apply, outcome_apply, reference?_renamed h.faithful hm,
    contributed?_renamed h hm spares.chain]
  simp only [map_bind, bind_map]
  refine bind_congr_ok fun found _ => bind_congr_ok fun applied contributes => ?_
  cases applied with
  | none => simp [Except.map, Function.comp_def, Renaming.applied]
  | some applied =>
    have completed := complete_renamed h.faithful hm (spares.contribution applied contributes)
    simp [Except.map, Function.comp_def, Renaming.applied, completed]

/-- A completed mapping refers to nothing that neither the mapping nor what it is completed by
refers to. -/
theorem forall_references_apply {P : Reference → Prop} {type : Option String} {result : Mapping}
    (hm : ∀ r ∈ referencesOfEntries .resource m, P r)
    (contributes : ∀ applied, contributed? s params chainLimit m = .ok (some applied) →
      ∀ r ∈ referencesOfEntries .resource applied, P r)
    (h : (apply s params chainLimit m).outcome = .ok (type, result)) :
    ∀ r ∈ referencesOfEntries .resource result, P r := by
  rw [outcome_apply] at h
  obtain ⟨found, -, h⟩ := bind_eq_ok.mp h
  obtain ⟨applied, given, h⟩ := bind_eq_ok.mp h
  cases h
  cases applied with
  | none => exact hm
  | some applied => exact forall_references_complete hm (contributes applied given)

end ResourceType

/-! ## Methods -/

/-- A method is read without looking at its traits. -/
theorem Method.ofMapping_without (scope : Scope) (name : String) (inherited : List (Option String))
    (m : Mapping) : Method.ofMapping scope name inherited (m.without "is") =
      Method.ofMapping scope name inherited m := by
  have annotations : scope.annotations (m.without "is") = scope.annotations m := by
    have unnamed : Scope.annotationName? (.text "is") = none := rfl
    unfold Scope.annotations Mapping.without
    rw [List.filterMap_filter]
    refine List.filterMap_congr fun e _ => ?_
    by_cases facet : e.1 = .text "is"
    · simp [facet, unnamed]
    · simp [facet]
  unfold Method.ofMapping
  simp only [annotations, Mapping.get_without (show "description" ≠ "is" by decide),
    Mapping.get_without (show "securedBy" ≠ "is" by decide),
    Mapping.get_without (show "queryParameters" ≠ "is" by decide),
    Mapping.get_without (show "body" ≠ "is" by decide),
    Mapping.get_without (show "responses" ≠ "is" by decide)]

/-- A method is renamed in its traits alone. -/
theorem renamedEntries_method_without (m : Mapping) :
    Mapping.without (renamedEntries ρ .method m) "is" = m.without "is" := by
  unfold Mapping.without
  induction m with
  | nil => rfl
  | cons e m ih =>
    obtain ⟨k, v⟩ := e
    rw [renamedEntries, List.filter_cons, List.filter_cons, ih]
    by_cases facet : k = .text "is"
    · simp [facet, Place.key]
    · simp [facet, Place.key, Place.below]

/-- Renamed traits complete a method alike, whatever it says of traits itself. -/
theorem Method.applyTraits_renamed (h : s.Renames t ρ allowed) (params : Params) (name : String)
    {references : List TraitReference}
    (named : ∀ r ∈ references, Named allowed .trait r.1) {m n : Mapping}
    (alike : n.without "is" = m.without "is") :
    (Method.applyTraits t params name n (references.map (ρ.applied .trait))).outcome.map
        (Mapping.without · "is") =
      (Method.applyTraits s params name m references).outcome.map (Mapping.without · "is") := by
  induction references generalizing m n with
  | nil => simp [Method.applyTraits, Except.map, alike]
  | cons r references ih =>
    obtain ⟨own, rest⟩ := List.forall_mem_cons.mp named
    have found : t.lookup "traits" (ρ .trait r.1) = s.lookup "traits" r.1 :=
      h.lookup .trait r.1 own
    rw [List.map_cons, Method.applyTraits, Method.applyTraits, Traced.outcome_bind,
      Traced.outcome_bind, Method.applyTrait, Method.applyTrait]
    simp only [Renaming.applied, found]
    cases s.lookup "traits" r.1 with
    | map declared =>
      simp only [Traced.outcome_bind, Traced.outcome_ofExcept, bind_assoc, bind_map]
      refine bind_congr_ok fun filled _ => ?_
      have merged : (n.merge filled).without "is" = (m.merge filled).without "is" := by
        rw [Mapping.without_merge, Mapping.without_merge, alike]
      exact ih rest merged
    | _ => exact ih rest alike

theorem Method.ofDeclaration_renamed (h : s.Renames t ρ allowed) (name : String)
    {traits : List TraitReference} (named : ∀ r ∈ traits, Named allowed .trait r.1)
    (inherited : List (Option String)) (hv : ∀ r ∈ v.references .method, allowed r) :
    (Method.ofDeclaration t params (traits.map (ρ.applied .trait)) inherited name
        (v.renamed ρ .method)).outcome =
      (Method.ofDeclaration s params traits inherited name v).outcome := by
  have entries : (v.renamed ρ .method).entries = renamedEntries ρ .method v.entries :=
    Value.entries_renamed (by simp) v
  rw [Value.references_entries (.inr rfl)] at hv
  have own := forall_references_get Place.method_below_is hv
  -- a method is read from what its traits complete, and that without looking at the traits
  have read : ∀ (scope : Scope) (x : Except Fault Mapping),
      (x >>= fun m => Method.ofMapping scope name inherited m) =
        x.map (Mapping.without · "is") >>= Method.ofMapping scope name inherited := by
    intro scope x
    simp only [map_bind, Method.ofMapping_without]
  have alike : Method.ofMapping t name inherited = Method.ofMapping s name inherited :=
    funext (h.readsAlike.methodOfMapping name inherited)
  unfold Method.ofDeclaration
  rw [entries, get_renamedEntries (by simp) Place.method_below_is,
    references_renamed h.faithful own]
  simp only [Traced.outcome_bind, Traced.outcome_ofExcept, map_bind, ← List.map_append]
  refine bind_congr_ok fun further referred => ?_
  have all : ∀ r ∈ traits ++ further, Named allowed .trait r.1 := by
    intro r mem
    rcases List.mem_append.mp mem with inherited | declared
    · exact named r inherited
    · exact named_of_references referred own declared
  have completed := Method.applyTraits_renamed h params name all
    (renamedEntries_method_without (ρ := ρ) v.entries)
  rw [read t, read s, completed, alike]

theorem forall_references_method {P : Reference → Prop}
    (h : ∀ r ∈ referencesOfEntries .resource m, P r) {e : String × Value}
    (mem : e ∈ m.filterMap fun e => (httpMethod? e.1).map fun name => (name, e.2)) :
    ∀ r ∈ e.2.references .method, P r := by
  obtain ⟨entry, held, found⟩ := List.mem_filterMap.mp mem
  obtain ⟨name, method, rfl⟩ := Option.map_eq_some_iff.mp found
  intro r refers
  rw [← Place.below_of_httpMethod? method] at refers
  exact h r (mem_referencesOfEntries.mpr ⟨entry, held, .inr refers⟩)

theorem Resource.methodsOf_renamed (h : s.Renames t ρ allowed)
    (hm : ∀ r ∈ referencesOfEntries .resource m, allowed r) :
    (Resource.methodsOf t params (renamedEntries ρ .resource m)).outcome =
      (Resource.methodsOf s params m).outcome := by
  have own := forall_references_get Place.below_is hm
  have elsewhere : Place.resource.below (.text "securedBy") = .elsewhere :=
    Place.below_text (by decide) (by decide)
  unfold Resource.methodsOf
  rw [get_renamedEntries (by simp) Place.below_is, references_renamed h.faithful own,
    get_renamedEntries (by simp) elsewhere, Value.renamed_elsewhere, methods_renamedEntries]
  simp only [Traced.outcome_bind, Traced.outcome_ofExcept, Traced.outcome_mapList, map_bind]
  refine bind_congr_ok fun traits referred => bind_congr_ok fun inherited _ => ?_
  have named : ∀ r ∈ traits, Named allowed .trait r.1 := fun r mem =>
    named_of_references referred own mem
  exact mapM_map_eq fun e mem =>
    Method.ofDeclaration_renamed h e.1 named inherited (forall_references_method hm mem)

/-! ## Resources -/

namespace Resource

mutual

/-- A resource with the recorded names of types changed. -/
def retyped (f : String → String) : Resource → Resource
  | ⟨relativeUri, uri, displayName, description, type, methods, children, uriParameters,
      annotations⟩ =>
    ⟨relativeUri, uri, displayName, description, type.map f, methods, retypedAll f children,
      uriParameters, annotations⟩

/-- Resources with the recorded names of types changed. -/
def retypedAll (f : String → String) : List Resource → List Resource
  | [] => []
  | r :: rs => r.retyped f :: retypedAll f rs

end

theorem retypedAll_eq_map (f : String → String) (rs : List Resource) :
    retypedAll f rs = rs.map (retyped f) := by
  induction rs with
  | nil => rfl
  | cons r rs ih => rw [retypedAll, ih, List.map_cons]

/-- A resource is met in the expansion of a definition. -/
inductive Met (scope : Scope) : String → String × Value → Prop
  | root {c : String × Value} (declared : c ∈ childrenOf scope.root) : Met scope "" c
  | inside {parentUri : String} {c d : String × Value} {type : Option String} {m : Mapping}
      (above : Met scope parentUri c)
      (completed : (ResourceType.apply scope (Resource.params (parentUri ++ c.1))
        ResourceType.chainLimit c.2.entries).outcome = .ok (type, m))
      (declared : d ∈ childrenOf m) : Met scope (parentUri ++ c.1) d

theorem forall_references_child {P : Reference → Prop} {place : Place}
    (resource : place = .root ∨ place = .resource)
    (h : ∀ r ∈ referencesOfEntries place m, P r) {c : String × Value} (mem : c ∈ childrenOf m) :
    ∀ r ∈ c.2.references .resource, P r := by
  obtain ⟨key, held⟩ := mem_childrenOf_iff.mp mem
  have below : place.below (.text c.1) = .resource := by
    rcases resource with rfl | rfl
    · exact Place.root_below_of_resourceKey? key
    · exact Place.below_of_resourceKey? key
  intro r refers
  rw [← below] at refers
  exact h r (mem_referencesOfEntries.mpr ⟨_, held, .inr refers⟩)

/-- A renamed resource is expanded as the resource is, but for the recorded names of types. -/
theorem ofDeclaration_renamed (h : s.Renames t ρ allowed)
    (spares : ∀ parentUri c, Met s parentUri c → ResourceType.Spares s
      (Resource.params (parentUri ++ c.1)) (fun r => allowed r ∧ ρ.Keeps r) c.2.entries)
    {depth : Nat} {parentUri : String} {c : String × Value} (met : Met s parentUri c)
    (hc : ∀ r ∈ c.2.references .resource, allowed r) :
    (ofDeclaration t parentUri depth (c.1, c.2.renamed ρ .resource)).outcome =
      (ofDeclaration s parentUri depth c).outcome.map (retyped (ρ .resourceType)) := by
  induction depth generalizing parentUri c with
  | zero => rfl
  | succ depth ih =>
    obtain ⟨relativeUri, v⟩ := c
    rw [Value.references_entries (.inl rfl)] at hc
    have spared := spares parentUri _ met
    have entries : (v.renamed ρ .resource).entries = renamedEntries ρ .resource v.entries :=
      Value.entries_renamed (by simp) v
    rw [ofDeclaration, ofDeclaration]
    simp only [Traced.outcome_bind, Traced.outcome_ofExcept, Traced.outcome_mapList,
      Traced.outcome_pure]
    rw [entries, ResourceType.apply_renamed h hc spared, map_bind, bind_map]
    refine bind_congr_ok fun found completed => ?_
    obtain ⟨type, m⟩ := found
    have hm := ResourceType.forall_references_apply hc
      (fun applied given r mem => (spared.contribution applied given r mem).1) completed
    have facet : ∀ name ∈ ["displayName", "description", "uriParameters"],
        Mapping.get (renamedEntries ρ .resource m) name = m.get name := by
      have plain : ∀ name ∈ ["displayName", "description", "uriParameters"],
          name ∉ "type" :: "is" :: httpMethods ∧ name.toList.head? ≠ some '/' := by decide
      intro name mem
      obtain ⟨other, slashless⟩ := plain name mem
      rw [get_renamedEntries (by simp) (Place.below_text other slashless), Value.renamed_elsewhere]
    have children : ((childrenOf (renamedEntries ρ .resource m)).mapM fun d =>
          (ofDeclaration t (parentUri ++ relativeUri) depth d).outcome) =
        ((childrenOf m).mapM fun d =>
          (ofDeclaration s (parentUri ++ relativeUri) depth d).outcome).map
            (List.map (retyped (ρ .resourceType))) := by
      rw [childrenOf_renamedEntries (.inr rfl)]
      exact mapM_map_eq_map fun d mem =>
        ih (.inside met completed mem) (forall_references_child (.inr rfl) hm mem)
    have annotations : t.annotations (renamedEntries ρ .resource m) = s.annotations m := by
      rw [h.readsAlike.annotations, annotations_renamedEntries]
    simp only [methodsOf_renamed h hm, children, annotations, facet "displayName" (by decide),
      facet "description" (by decide), facet "uriParameters" (by decide), bind_map, map_bind]
    simp only [Except.map, retyped, retypedAll_eq_map]

end Resource

end RamlDocs
