import RamlDocs.Definition.Resource
import RamlDocs.Proofs.Definition.ResourceType

/-!
# Resources by their keys

A key that begins with a slash declares a resource. Completing a mapping neither makes such a key
nor drops one: below a completed resource stand the resources that it declares itself, completed by
those that its types bring, and no others. So whatever completing a value keeps holds below the
completed resource if it holds below the resource and below the definitions along its chain of types
(`ResourceType.Completion.forall_children`).
-/

namespace RamlDocs

open Resource (childrenOf)

/-! ## Keys -/

theorem resourceKey?_eq_some_iff {k : Key} {uri : String} :
    resourceKey? k = some uri ↔ k = .text uri ∧ uri.startsWith "/" = true := by
  cases k with
  | text s =>
    simp only [resourceKey?, Key.text.injEq]
    by_cases h : s.startsWith "/" = true
    · simp only [h, if_true, Option.some.injEq]
      constructor
      · rintro rfl
        exact ⟨rfl, h⟩
      · exact fun h => h.1
    · simp only [h, Bool.false_eq_true, if_false, reduceCtorEq, false_iff, not_and]
      rintro rfl
      exact h
  | _ => simp [resourceKey?]

/-- A text that does not begin with a slash is the key of no resource. -/
theorem resourceKey?_text {name : String} (h : name.toList.head? ≠ some '/') :
    resourceKey? (.text name) = none := by
  rw [Option.eq_none_iff_forall_ne_some]
  intro uri found
  obtain ⟨same, slash⟩ := resourceKey?_eq_some_iff.mp found
  cases same
  obtain ⟨rest, hr⟩ := String.startsWith_string_iff.mp slash
  apply h
  rw [← hr]
  rfl

/-- No method is the key of a resource. -/
theorem resourceKey?_of_httpMethod? {k : Key} {name : String} (h : httpMethod? k = some name) :
    resourceKey? k = none := by
  have plain : ∀ method ∈ httpMethods, method.toList.head? ≠ some '/' := by decide
  obtain ⟨rfl, known⟩ := httpMethod?_eq_some_iff.mp h
  exact resourceKey?_text (plain name known)

/-- A key that is the same as that of a resource is that key. -/
theorem eq_of_same_resourceKey {k l : Key} {uri : String} (h : resourceKey? k = some uri)
    (same : l.same k = true) : l = k := by
  obtain ⟨rfl, -⟩ := resourceKey?_eq_some_iff.mp h
  exact (Key.same_text_iff l uri).mp same

/-! ## The resources of a mapping -/

namespace Resource

@[simp] theorem childrenOf_nil : childrenOf [] = [] := rfl

theorem childrenOf_cons (k : Key) (v : Value) (m : Mapping) :
    childrenOf ((k, v) :: m) =
      ((resourceKey? k).map fun uri => (uri, v)).toList ++ childrenOf m := by
  unfold childrenOf
  cases h : resourceKey? k <;> simp [h]

theorem childrenOf_append (m n : Mapping) : childrenOf (m ++ n) = childrenOf m ++ childrenOf n :=
  List.filterMap_append

theorem mem_childrenOf_iff {m : Mapping} {c : String × Value} :
    c ∈ childrenOf m ↔ resourceKey? (.text c.1) = some c.1 ∧ (.text c.1, c.2) ∈ m := by
  unfold childrenOf
  rw [List.mem_filterMap]
  constructor
  · rintro ⟨⟨k, v⟩, mem, h⟩
    obtain ⟨uri, key, rfl⟩ := Option.map_eq_some_iff.mp h
    obtain ⟨rfl, -⟩ := resourceKey?_eq_some_iff.mp key
    exact ⟨key, mem⟩
  · rintro ⟨key, mem⟩
    exact ⟨_, mem, Option.map_eq_some_iff.mpr ⟨c.1, key, rfl⟩⟩

theorem childrenOf_without_subset (m : Mapping) (name : String) :
    childrenOf (m.without name) ⊆ childrenOf m := by
  intro c mem
  obtain ⟨key, held⟩ := mem_childrenOf_iff.mp mem
  exact mem_childrenOf_iff.mpr ⟨key, (List.mem_filter.mp held).1⟩

/-- A key that is no resource may be taken out. -/
theorem childrenOf_without {name : String} (h : resourceKey? (.text name) = none) (m : Mapping) :
    childrenOf (m.without name) = childrenOf m := by
  unfold childrenOf Mapping.without
  rw [List.filterMap_filter]
  refine List.filterMap_congr fun e _ => ?_
  by_cases facet : e.1 = .text name
  · simp [facet, h]
  · simp [facet]

/-- A key that is no resource may be put. -/
theorem childrenOf_put {k : Key} (h : resourceKey? k = none) (m : Mapping) (v : Value) :
    childrenOf (m.put k v) = childrenOf m := by
  induction m with
  | nil => simp [Mapping.put, childrenOf, h]
  | cons e m ih =>
    obtain ⟨l, w⟩ := e
    rw [Mapping.put]
    by_cases same : l.same k = true
    · have other : resourceKey? l = none := by
        rw [Option.eq_none_iff_forall_ne_some]
        intro uri resource
        rw [Key.same_comm] at same
        rw [← eq_of_same_resourceKey resource same, h] at resource
        cases resource
      rw [if_pos same, childrenOf_cons, childrenOf_cons, other, Option.map_none, Option.map_none]
    · rw [if_neg same, childrenOf_cons, childrenOf_cons, ih]

/-- A resource after a key was put was there before or is what was put. -/
theorem mem_childrenOf_put {m : Mapping} {k : Key} {v : Value} {c : String × Value}
    (h : c ∈ childrenOf (m.put k v)) : c ∈ childrenOf m ∨ resourceKey? k = some c.1 ∧ c.2 = v := by
  obtain ⟨key, held⟩ := mem_childrenOf_iff.mp h
  rcases Mapping.mem_put held with old | ⟨-, same, rfl⟩
  · exact .inl (mem_childrenOf_iff.mpr ⟨key, old⟩)
  · rw [Key.same_comm] at same
    rw [eq_of_same_resourceKey key same]
    exact .inr ⟨key, rfl⟩

/-- What completing a value keeps holds of the resources of a merged mapping. -/
theorem forall_children_merge {P : Value → Prop}
    (closed : ∀ v w, P v → P w → P (v.completedBy w)) {m : Mapping} {s : List (Key × Value)}
    (hm : ∀ c ∈ childrenOf m, P c.2) (hs : ∀ c ∈ childrenOf s, P c.2) :
    ∀ c ∈ childrenOf (Mapping.merge m s), P c.2 := by
  have entries : ∀ {n : Mapping}, (∀ c ∈ childrenOf n, P c.2) →
      ∀ e ∈ n, ∀ uri, resourceKey? e.1 = some uri → P e.2 := by
    intro n hn e mem uri key
    obtain ⟨same, -⟩ := resourceKey?_eq_some_iff.mp key
    rw [same] at key
    exact hn (uri, e.2) (mem_childrenOf_iff.mpr ⟨key, same ▸ mem⟩)
  intro c mem
  obtain ⟨key, held⟩ := mem_childrenOf_iff.mp mem
  refine Mapping.forall_merge (P := fun k v => ∀ uri, resourceKey? k = some uri → P v) ?_ ?_
    (entries hm) (entries hs) _ held c.1 key
  · intro k l v same all uri key
    exact all uri (eq_of_same_resourceKey key ((Key.same_comm k l).trans same) ▸ key)
  · exact fun k v w hv hw uri key => closed v w (hv uri key) (hw uri key)

end Resource

/-! ## The resources of a completed mapping -/

namespace ResourceType

open Resource (childrenOf_nil childrenOf_cons childrenOf_without_subset mem_childrenOf_put
  forall_children_merge)

variable {m definition applied : Mapping} {ds : List Mapping} {P : Value → Prop}

theorem forall_children_complete (closed : ∀ v w, P v → P w → P (v.completedBy w))
    (hm : ∀ c ∈ childrenOf m, P c.2) (ha : ∀ c ∈ childrenOf applied, P c.2) :
    ∀ c ∈ childrenOf (complete m applied), P c.2 := by
  have merged : ∀ c ∈ childrenOf (Mapping.merge (m.without "type") applied), P c.2 :=
    forall_children_merge closed (fun c mem => hm c (childrenOf_without_subset m "type" mem)) ha
  intro c mem
  unfold complete at mem
  simp only at mem
  split at mem
  · exact merged c mem
  · rcases mem_childrenOf_put mem with old | ⟨key, -⟩
    · exact merged c old
    · rw [resourceKey?_text (by decide)] at key
      cases key

/-- The key of a resource goes to a mapping as it is, and its value is not filled in. -/
theorem target?_of_resourceKey {k l : Key} {uri : String} (h : target? m k = some l)
    (key : resourceKey? l = some uri) : l = k := by
  rcases target?_eq_some h with ⟨-, same⟩ | ⟨method, known, -, rfl⟩
  · exact same
  · rw [resourceKey?_of_httpMethod? (httpMethod?_eq_some_iff.mpr ⟨rfl, known⟩)] at key
    cases key

theorem fillMethod_of_resourceKey {k : Key} {uri : String} (key : resourceKey? k = some uri)
    (v : Value) : fillMethod k v = .ok v := by
  unfold fillMethod
  split
  next name named =>
    rw [resourceKey?_of_httpMethod? named] at key
    cases key
  next => rfl

/-- A definition contributes the resources that it has. -/
theorem mem_childrenOf_contribution {done : Mapping}
    (h : contribution m done definition = .ok applied) {c : String × Value}
    (mem : c ∈ childrenOf applied) : c ∈ childrenOf done ∨ c ∈ childrenOf definition := by
  induction definition generalizing done with
  | nil =>
    cases h
    exact .inl mem
  | cons e definition ih =>
    obtain ⟨k, v⟩ := e
    rw [childrenOf_cons, List.mem_append]
    unfold contribution at h
    cases goes : target? m k with
    | none =>
      rw [goes] at h
      exact (ih h).imp_right .inr
    | some l =>
      rw [goes] at h
      obtain ⟨w, filled, h⟩ := bind_eq_ok.mp h
      rcases ih h with old | later
      · rcases mem_childrenOf_put old with old | ⟨key, rfl⟩
        · exact .inl old
        · rw [fillMethod_of_resourceKey key] at filled
          cases filled
          rw [target?_of_resourceKey goes key] at key
          exact .inr (.inl (by simp [key]))
      · exact .inr (.inr later)

/-- What completing a value keeps holds below a completed resource if it holds below the resource
and below the definitions that complete it. -/
theorem Completion.forall_children {result : Mapping} (h : Completion ds m result)
    (closed : ∀ v w, P v → P w → P (v.completedBy w)) (hm : ∀ c ∈ childrenOf m, P c.2)
    (hd : ∀ d ∈ ds, ∀ c ∈ childrenOf d, P c.2) : ∀ c ∈ childrenOf result, P c.2 := by
  induction h with
  | bare => exact hm
  | @step d m definition applied ds inner contributes ih =>
    obtain ⟨nearest, farther⟩ := List.forall_mem_cons.mp hd
    refine forall_children_complete closed hm fun c mem => ?_
    rcases mem_childrenOf_contribution contributes mem with none_ | brought
    · cases none_
    · exact ih nearest farther c brought

end ResourceType

end RamlDocs
