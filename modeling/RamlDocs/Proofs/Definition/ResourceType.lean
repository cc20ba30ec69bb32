import RamlDocs.Definition.ResourceType
import RamlDocs.Proofs.Definition.MethodNames
import RamlDocs.Proofs.Outcome
import RamlDocs.Proofs.Value.Merge

/-!
# What resource types contribute

A resource is completed by the definitions along its chain of types. The chain is stated apart from
the completion (`ResourceType.chain`): it only follows references and fills in placeholders. Against
it the completion is described by the names of the methods, which are those of the resource and then
those that the definitions declare without a mark (`Completion.methodNames_eq`), and by the values
that the resource itself settles, which all stay (`Completion.at?_eq`).

The induction is on the chain, outermost definition first (`ResourceType.Completion`). A marked
method adds no name at any level, since it goes only where the name already is.
-/

namespace RamlDocs

open Template (Params)

namespace ResourceType

variable {scope : Scope} {params : Params} {m d definition applied : Mapping}
  {ds : List Mapping}

/-! ## The chain of types -/

/-- The definitions along the chain of types of a mapping, with their placeholders filled in: that
of its first type, then that of the first type of this definition, and so on until a name is not
that of a mapping, and at most `limit`. -/
def chain (scope : Scope) (params : Params) : Nat → Mapping → Except Fault (List Mapping)
  | 0, _ => .ok []
  | limit + 1, m => do
    match ← reference? m with
    | none => .ok []
    | some reference =>
      match ← definition? scope params reference with
      | none => .ok []
      | some filled => do
        let rest ← chain scope params limit filled
        .ok (filled :: rest)

/-- What holds of every definition that a reference can name holds along the chain. -/
theorem forall_chain {P : Mapping → Prop}
    (named : ∀ reference d, definition? scope params reference = .ok (some d) → P d) {limit : Nat}
    (h : chain scope params limit m = .ok ds) : ∀ d ∈ ds, P d := by
  induction limit generalizing m ds with
  | zero =>
    cases h
    simp
  | succ limit ih =>
    obtain ⟨reference, _, h⟩ := bind_eq_ok.mp h
    cases reference with
    | none =>
      cases h
      simp
    | some reference =>
      obtain ⟨found, defined, h⟩ := bind_eq_ok.mp h
      cases found with
      | none =>
        cases h
        simp
      | some filled =>
        obtain ⟨rest, followed, h⟩ := bind_eq_ok.mp h
        cases h
        exact List.forall_mem_cons.mpr ⟨named reference filled defined, ih followed⟩

/-- A mapping completed by definitions, the nearest first: each definition is completed by those
after it before it contributes. -/
inductive Completion : List Mapping → Mapping → Mapping → Prop
  | bare (m : Mapping) : Completion [] m m
  | step {d m definition applied : Mapping} {ds : List Mapping}
      (inner : Completion ds d definition)
      (contributes : contribution m [] definition = .ok applied) :
      Completion (d :: ds) m (complete m applied)

/-- Applying a resource type completes the mapping by the chain of its types. -/
theorem completion_of_apply {limit : Nat} {type : Option String} {result : Mapping}
    (h : (apply scope params limit m).outcome = .ok (type, result)) :
    ∃ ds, chain scope params limit m = .ok ds ∧ Completion ds m result := by
  induction limit generalizing m type result with
  | zero =>
    refine ⟨[], rfl, ?_⟩
    rw [apply, Traced.outcome_bind_eq_ok] at h
    obtain ⟨reference, _, h⟩ := h
    cases reference with
    | none => cases h; exact .bare m
    | some reference => cases h; exact .bare m
  | succ limit ih =>
    rw [apply, Traced.outcome_bind_eq_ok] at h
    obtain ⟨reference, named, h⟩ := h
    rw [Traced.outcome_ofExcept] at named
    cases reference with
    | none =>
      cases h
      exact ⟨[], bind_eq_ok.mpr ⟨none, named, rfl⟩, .bare m⟩
    | some reference =>
      obtain ⟨found, defined, h⟩ := Traced.outcome_bind_eq_ok.mp h
      rw [Traced.outcome_ofExcept] at defined
      cases found with
      | none =>
        cases h
        exact ⟨[], bind_eq_ok.mpr ⟨_, named, bind_eq_ok.mpr ⟨none, defined, rfl⟩⟩, .bare m⟩
      | some d =>
        obtain ⟨⟨_, definition⟩, inner, h⟩ := Traced.outcome_bind_eq_ok.mp h
        obtain ⟨applied, contributes, h⟩ := Traced.outcome_bind_eq_ok.mp h
        obtain ⟨ds, rest, completion⟩ := ih inner
        cases h
        refine ⟨d :: ds, bind_eq_ok.mpr ⟨_, named, bind_eq_ok.mpr ⟨_, defined, ?_⟩⟩, ?_⟩
        · exact bind_eq_ok.mpr ⟨ds, rest, rfl⟩
        · exact .step completion contributes

/-! ## Names along the chain -/

/-- A marked key names a method, and none without its mark. -/
theorem optionalMethod?_eq_some {k : Key} {name : String} (h : optionalMethod? k = some name) :
    name ∈ httpMethods ∧ httpMethod? k = none := by
  have unmarked : ∀ s ∈ httpMethods, s.toList.getLast? ≠ some '?' := by decide
  unfold optionalMethod? at h
  split at h
  next s =>
    simp only [beq_iff_eq] at h
    split at h
    next marked =>
      refine ⟨(httpMethod?_eq_some_iff.mp h).2, ?_⟩
      rw [Option.eq_none_iff_forall_ne_some]
      intro other ho
      obtain ⟨same, known⟩ := httpMethod?_eq_some_iff.mp ho
      cases same
      exact unmarked s known marked
    next => cases h
  next => cases h

/-- A key goes to a mapping as it is if it is not marked, and else as the method that it marks. -/
theorem target?_eq_some {k l : Key} (h : target? m k = some l) :
    (optionalMethod? k = none ∧ l = k) ∨
      ∃ name ∈ httpMethods, optionalMethod? k = some name ∧ l = .text name := by
  unfold target? at h
  split at h
  · cases h
  · split at h
    next name marked =>
      split at h
      · exact .inr ⟨name, (optionalMethod?_eq_some marked).1, marked, (Option.some.inj h).symm⟩
      · cases h
    next unmarked => exact .inl ⟨unmarked, (Option.some.inj h).symm⟩

/-- What a key of a definition adds to the names that the resource has not: its own name, if it is
not marked. -/
theorem filter_target? (m : Mapping) (k : Key) :
    ((target? m k).bind httpMethod?).filter (fun n => !m.methodNames.contains n) =
      (httpMethod? k).filter fun n => !m.methodNames.contains n := by
  unfold target?
  by_cases hk : k = .text "type"
  · subst hk
    rfl
  · rw [if_neg hk]
    cases ho : optionalMethod? k with
    | none => rfl
    | some name =>
      obtain ⟨known, unnamed⟩ := optionalMethod?_eq_some ho
      rw [unnamed]
      simp only
      split
      next has =>
        have named : httpMethod? (.text name) = some name :=
          httpMethod?_eq_some_iff.mpr ⟨rfl, known⟩
        have mem : name ∈ m.methodNames := Mapping.mem_methodNames_iff.mpr ⟨known, has⟩
        simp [named, mem]
      next => rfl

theorem methodNames_contribution {done : Mapping}
    (h : contribution m done definition = .ok applied) :
    applied.methodNames = done.methodNames ++ undeclared done.methodNames
      (definition.filterMap fun e => (target? m e.1).bind httpMethod?) := by
  induction definition generalizing done with
  | nil =>
    cases h
    simp [undeclared]
  | cons e definition ih =>
    obtain ⟨k, v⟩ := e
    unfold contribution at h
    cases ht : target? m k with
    | none =>
      rw [ht] at h
      simpa [ht] using ih h
    | some l =>
      rw [ht] at h
      obtain ⟨w, _, h⟩ := bind_eq_ok.mp h
      rw [ih h, Mapping.methodNames_put_append]
      cases hl : httpMethod? l <;> simp [ht, hl]

theorem methodNames_complete (m applied : Mapping) :
    (complete m applied).methodNames =
      m.methodNames ++ undeclared m.methodNames applied.methodNames := by
  have merged : (Mapping.merge (m.without "type") applied).methodNames =
      m.methodNames ++ undeclared m.methodNames applied.methodNames := by
    rw [Mapping.methodNames_merge, Mapping.methodNames_without (by decide)]
  unfold complete
  simp only
  split
  · exact merged
  · have unnamed : httpMethod? (.text "is") = none := rfl
    rw [Mapping.set, Mapping.methodNames_put, unnamed, merged]
    simp [undeclared]

/-- What a definition adds to the names of a resource are its own names. -/
theorem methodNames_complete_contribution (h : contribution m [] definition = .ok applied) :
    (complete m applied).methodNames =
      m.methodNames ++ undeclared m.methodNames definition.methodNames := by
  have new : ∀ n, n ∉ m.methodNames → (!m.methodNames.contains n) = true := by simp
  rw [methodNames_complete, methodNames_contribution h, Mapping.methodNames_nil, List.nil_append,
    undeclared_undeclared _ (by simp)]
  rw [← undeclared_filter _ new, List.filter_filterMap]
  simp only [filter_target?]
  rw [← List.filter_filterMap, undeclared_filter _ new]
  rfl

theorem Completion.methodNames_eq {result : Mapping} (h : Completion ds m result) :
    result.methodNames =
      m.methodNames ++ undeclared m.methodNames (ds.flatMap Mapping.methodNames) := by
  induction h with
  | bare m => simp [undeclared]
  | @step d m definition applied ds inner contributes ih =>
    rw [methodNames_complete_contribution contributes, ih, List.flatMap_cons, undeclared_append,
      undeclared_append, undeclared_undeclared]
    intro n mem
    exact List.mem_append_right _ mem

/-! ## What the resource settles -/

theorem at?_complete {k : Key} {path : List Key} {x : Value} (settled : x.Settled)
    (hk : k ≠ .text "type" ∧ k ≠ .text "is") (h : (Value.map m).at? (k :: path) = some x)
    (applied : Mapping) : (Value.map (complete m applied)).at? (k :: path) = some x := by
  have typeless : (Value.map (m.without "type")).at? (k :: path) = some x := by
    unfold Value.at? at h ⊢
    simp only [Value.entries] at h ⊢
    rw [Mapping.find?_without hk.1]
    exact h
  have merged := Value.at?_merge settled applied typeless
  unfold complete
  simp only
  split
  · exact merged
  · unfold Value.at? at merged ⊢
    simp only [Value.entries] at merged ⊢
    have other : ¬ (Key.text "is").same k = true := by
      rw [Key.same_comm, Key.same_text_iff]
      exact hk.2
    rw [Mapping.set, Mapping.find?_put, if_neg other]
    exact merged

theorem Completion.at?_eq {result : Mapping} (h : Completion ds m result) {k : Key}
    {path : List Key} {x : Value} (settled : x.Settled)
    (hk : k ≠ .text "type" ∧ k ≠ .text "is") (hx : (Value.map m).at? (k :: path) = some x) :
    (Value.map result).at? (k :: path) = some x := by
  cases h with
  | bare => exact hx
  | step => exact at?_complete settled hk hx _

/-! ## The completed resource -/

/-- A resource completed by its chain of types has its own methods and then, in order of first
declaration along the chain, those that the definitions declare without a mark; a marked key adds
none. What the resource itself settles outside its type and its traits stays as it is. -/
theorem completed_of_apply {type : Option String} {result : Mapping}
    (h : (apply scope params chainLimit m).outcome = .ok (type, result)) :
    ∃ ds, chain scope params chainLimit m = .ok ds ∧
      (∀ name, name ∈ result.methodNames ↔
        name ∈ m.methodNames ∨ ∃ d ∈ ds, name ∈ d.methodNames) ∧
      result.methodNames =
        m.methodNames ++ undeclared m.methodNames (ds.flatMap Mapping.methodNames) ∧
      ∀ (k : Key) (path : List Key) (v : Value), k ≠ .text "type" → k ≠ .text "is" →
        (Value.map m).at? (k :: path) = some v → v ≠ .null → v.isMap = false →
          (Value.map result).at? (k :: path) = some v := by
  obtain ⟨ds, followed, completion⟩ := completion_of_apply h
  have names := completion.methodNames_eq
  refine ⟨ds, followed, ?_, names, ?_⟩
  · intro name
    rw [names, mem_append_undeclared_iff, List.mem_append, List.mem_flatMap]
  · intro k path v notType notIs held notNull flat
    exact completion.at?_eq ⟨notNull, flat⟩ ⟨notType, notIs⟩ held

/-- A resource type that is its own type, with methods marked and not. -/
def selfTyped : Scope where
  root := [(.text "resourceTypes", .record [("item", .record [
    ("type", .text "item"),
    ("get?", .record [("description", .text "fallback"), ("is", .text "paged")]),
    ("delete?", .null),
    ("post", .record [("description", .text "adds")])])])]
  libraries := []
  mediaType := "application/json"

/-- A resource of that type. -/
def itemResource : Mapping :=
  [(.text "get", .record [("description", .text "reads")]), (.text "type", .text "item")]

/-- The marked `delete?` adds nothing, however often the type goes round. -/
theorem completed_itemResource :
    ∃ type result ds,
      (apply selfTyped [] chainLimit itemResource).outcome = .ok (type, result) ∧
        chain selfTyped [] chainLimit itemResource = .ok ds ∧
        result.methodNames = ["get", "post"] ∧ ["get", "post"] = itemResource.methodNames ++
          undeclared itemResource.methodNames (ds.flatMap Mapping.methodNames) ∧
        (Value.map result).at? [.text "get", .text "description"] = some (.text "reads") := by
  have computed : (apply selfTyped [] chainLimit itemResource).outcome.toOption.map
      (fun completed => completed.2.methodNames) = some ["get", "post"] := by decide +kernel
  cases h : (apply selfTyped [] chainLimit itemResource).outcome with
  | error f =>
    rw [h] at computed
    cases computed
  | ok completed =>
    obtain ⟨type, result⟩ := completed
    obtain ⟨ds, followed, -, names, stays⟩ := completed_of_apply h
    rw [h] at computed
    have both : result.methodNames = ["get", "post"] := Option.some.inj computed
    have description := stays (.text "get") [.text "description"] (.text "reads") (by decide)
      (by decide) rfl (by simp) rfl
    exact ⟨type, result, ds, rfl, followed, both, both.symm.trans names, description⟩

end ResourceType

end RamlDocs
