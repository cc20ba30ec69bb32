import RamlDocs.Definition.Method
import RamlDocs.Proofs.Definition.Names
import RamlDocs.Proofs.Value.Merge

/-!
# Names of methods

The methods that a mapping declares, in order. What `put`, `merge` and the removal of a key do to
them is stated here once, so that completing a resource can be followed by its names alone.
-/

namespace RamlDocs

/-- The methods that a mapping declares, in order. -/
def Mapping.methodNames (m : Mapping) : List String := m.filterMap fun e => httpMethod? e.1

theorem httpMethod?_eq_some_iff {k : Key} {name : String} :
    httpMethod? k = some name ↔ k = .text name ∧ name ∈ httpMethods := by
  cases k with
  | text s =>
    simp only [httpMethod?, Key.text.injEq]
    by_cases h : s ∈ httpMethods
    · simp only [List.contains_eq_mem, h, decide_true, if_true, Option.some.injEq]
      constructor
      · rintro rfl
        exact ⟨rfl, h⟩
      · exact fun h => h.1
    · simp only [List.contains_eq_mem, h, decide_false, Bool.false_eq_true, if_false, reduceCtorEq,
        false_iff, not_and]
      rintro rfl
      exact h
  | _ => simp [httpMethod?]

namespace Mapping

@[simp] theorem methodNames_nil : methodNames [] = [] := rfl

theorem methodNames_cons (k : Key) (v : Value) (m : Mapping) :
    methodNames ((k, v) :: m) = (httpMethod? k).toList ++ methodNames m := by
  unfold methodNames
  cases h : httpMethod? k <;> simp [h]

theorem mem_methodNames_iff {m : Mapping} {name : String} :
    name ∈ methodNames m ↔ name ∈ httpMethods ∧ m.has name = true := by
  induction m with
  | nil => simp [has, get?]
  | cons e m ih =>
    obtain ⟨k, v⟩ := e
    rw [methodNames_cons, List.mem_append, ih, Option.mem_toList, httpMethod?_eq_some_iff]
    unfold has get?
    rw [find?_cons]
    by_cases h : k = .text name
    · simp +contextual [h]
    · have other : ¬ k.same (.text name) = true := mt (Key.same_text_iff k name).mp h
      simp [h, other]

/-- A name that is put goes to the end unless it is there. -/
theorem methodNames_put (m : Mapping) (k : Key) (v : Value) :
    methodNames (put m k v) =
      methodNames m ++ undeclared (methodNames m) (httpMethod? k).toList := by
  induction m with
  | nil =>
    rw [put, methodNames_cons]
    cases httpMethod? k <;> simp [undeclared]
  | cons e m ih =>
    obtain ⟨l, w⟩ := e
    unfold put
    by_cases same : l.same k = true
    · rw [if_pos same, methodNames_cons, methodNames_cons]
      cases hk : httpMethod? k with
      | none => simp [undeclared]
      | some name =>
        obtain ⟨rfl, known⟩ := httpMethod?_eq_some_iff.mp hk
        obtain rfl := (Key.same_text_iff l name).mp same
        rw [hk]
        simp [undeclared]
    · rw [if_neg same, methodNames_cons, methodNames_cons, ih, List.append_assoc]
      cases hk : httpMethod? k with
      | none => rfl
      | some name =>
        obtain ⟨rfl, -⟩ := httpMethod?_eq_some_iff.mp hk
        have other : name ∉ (httpMethod? l).toList := by
          rw [Option.mem_toList, httpMethod?_eq_some_iff]
          exact fun h => same ((Key.same_text_iff l name).mpr h.1)
        simp [undeclared_singleton, other]

/-- To put a key and then add names is to add its name and then the others. -/
theorem methodNames_put_append (m : Mapping) (k : Key) (v : Value) (ns : List String) :
    methodNames (put m k v) ++ undeclared (methodNames (put m k v)) ns =
      methodNames m ++ undeclared (methodNames m) ((httpMethod? k).toList ++ ns) := by
  rw [methodNames_put, undeclared_append, List.append_assoc]
  rw [undeclared_congr ns fun _ => mem_append_undeclared_iff]

/-- Merging adds the names that are new, in their order. -/
theorem methodNames_merge (s m : Mapping) :
    methodNames (merge m s) = methodNames m ++ undeclared (methodNames m) (methodNames s) := by
  induction s generalizing m with
  | nil => simp [merge, undeclared]
  | cons e s ih =>
    obtain ⟨k, w⟩ := e
    rw [merge_cons, ih, methodNames_put_append, methodNames_cons]

theorem methodNames_without {name : String} (h : name ∉ httpMethods) (m : Mapping) :
    methodNames (m.without name) = methodNames m := by
  induction m with
  | nil => rfl
  | cons e m ih =>
    obtain ⟨k, v⟩ := e
    unfold without at ih ⊢
    rw [methodNames_cons]
    by_cases hk : k = .text name
    · have none_ : httpMethod? k = none := by
        rw [Option.eq_none_iff_forall_ne_some]
        intro other h'
        obtain ⟨rfl, known⟩ := httpMethod?_eq_some_iff.mp h'
        cases hk
        exact h known
      rw [List.filter_cons_of_neg (by simp [hk]), ih, none_]
      rfl
    · rw [List.filter_cons_of_pos (by simpa using hk), methodNames_cons, ih]

end Mapping

end RamlDocs
