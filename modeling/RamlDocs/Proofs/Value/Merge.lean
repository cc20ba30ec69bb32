import RamlDocs.Proofs.Value.Mapping

/-!
# What merging keeps

A value that is neither null nor a mapping is settled: wherever it stands in a value, at a path of
keys, it stands there still after the value has been completed by any other
(`Value.at?_completedBy`, `Value.at?_merge`).
-/

namespace RamlDocs

/-- The value at a path of keys. -/
def Value.at? (v : Value) : List Key → Option Value
  | [] => some v
  | k :: path => (Mapping.find? v.entries k).bind fun w => w.at? path

/-- Neither null nor a mapping: nothing that a merge would complete. -/
def Value.Settled (v : Value) : Prop := v ≠ .null ∧ v.isMap = false

theorem Value.completedBy_of_isMap_eq_false {v : Value} (h : v ≠ .null) (flat : v.isMap = false)
    (w : Value) : v.completedBy w = v := by
  cases v <;> simp_all [Value.completedBy, Value.isMap]

theorem Value.completedBy_null (v : Value) : v.completedBy .null = v := by
  cases v <;> simp [Value.completedBy]

/-- Only two mappings make something new, any other two values one of the two. -/
theorem Value.completedBy_cases (v w : Value) :
    v.completedBy w = v ∨ v.completedBy w = w ∨
      ∃ m s, v = .map m ∧ w = .map s ∧ v.completedBy w = .map (Mapping.merge m s) := by
  cases v with
  | null => exact .inr (.inl (by simp [Value.completedBy]))
  | map m =>
    cases w with
    | map s => exact .inr (.inr ⟨m, s, rfl, rfl, rfl⟩)
    | _ => exact .inl rfl
  | _ => exact .inl (Value.completedBy_of_isMap_eq_false (by simp) rfl w)

/-- One entry more to merge: the value under its key is completed. -/
theorem Mapping.merge_cons (m : Mapping) (k : Key) (w : Value) (s : Mapping) :
    Mapping.merge m ((k, w) :: s) =
      Mapping.merge (m.put k (((Mapping.find? m k).getD .null).completedBy w)) s := by
  rw [Mapping.merge]
  cases Mapping.find? m k <;> simp [Value.completedBy]

/-! ## Keys -/

namespace Mapping

theorem Distinct.merge {s m : Mapping} (h : m.Distinct) : (merge m s).Distinct := by
  induction s generalizing m with
  | nil => exact h
  | cons e s ih =>
    obtain ⟨k, w⟩ := e
    rw [merge_cons]
    exact ih (h.put k _)

/-- What a merge holds under a key: what both sides hold, the first completed by the second. -/
theorem find?_merge {s : Mapping} (distinct : s.Distinct) (m : Mapping) (k : Key) :
    find? (merge m s) k = match find? s k with
      | none => find? m k
      | some w => some (((find? m k).getD .null).completedBy w) := by
  induction s generalizing m with
  | nil => rfl
  | cons e s ih =>
    obtain ⟨l, w⟩ := e
    rw [merge_cons, ih distinct.of_cons, find?_put, find?_cons]
    by_cases same : l.same k = true
    · rw [distinct.find?_tail same, if_pos same, if_pos same, find?_congr same]
    · rw [if_neg same, if_neg same]

/-- A key can be taken out before or after. -/
theorem without_merge (m s : Mapping) (name : String) :
    (merge m s).without name = merge (m.without name) (s.without name) := by
  induction s generalizing m with
  | nil => rfl
  | cons e s ih =>
    obtain ⟨k, w⟩ := e
    rw [merge_cons, ih, without_put]
    by_cases hk : k = .text name
    · rw [if_pos hk]
      simp [without, hk]
    · have kept : without ((k, w) :: s) name = (k, w) :: without s name := by simp [without, hk]
      rw [if_neg hk, kept, merge_cons, find?_without hk]

/-- Every key of a merged mapping is a key of one of the two. -/
theorem key_of_mem_merge {m s : Mapping} {e : Key × Value} (h : e ∈ merge m s) :
    (∃ w, (e.1, w) ∈ m) ∨ ∃ w, (e.1, w) ∈ s := by
  induction s generalizing m with
  | nil => exact .inl ⟨e.2, h⟩
  | cons f s ih =>
    obtain ⟨k, w⟩ := f
    rw [merge_cons] at h
    rcases ih h with ⟨v, mem⟩ | ⟨v, mem⟩
    · rcases mem_put mem with old | ⟨rfl | old, -, -⟩
      · exact .inl ⟨v, old⟩
      · exact .inr ⟨w, List.mem_cons_self⟩
      · exact .inl old
    · exact .inr ⟨v, List.mem_cons_of_mem _ mem⟩

/-- What completing a value keeps holds of the entries of a merged mapping. -/
theorem forall_merge {P : Key → Value → Prop}
    (congr : ∀ k l v, l.same k = true → P k v → P l v)
    (closed : ∀ k v w, P k v → P k w → P k (v.completedBy w)) {s m : Mapping}
    (hm : ∀ e ∈ m, P e.1 e.2) (hs : ∀ e ∈ s, P e.1 e.2) : ∀ e ∈ merge m s, P e.1 e.2 := by
  induction s generalizing m with
  | nil => exact hm
  | cons e s ih =>
    obtain ⟨k, w⟩ := e
    obtain ⟨own, rest⟩ := List.forall_mem_cons.mp hs
    rw [merge_cons]
    refine ih (fun e mem => ?_) rest
    rcases mem_put mem with old | ⟨-, same, value⟩
    · exact hm e old
    · rw [value]
      refine congr k e.1 _ same ?_
      cases found : find? m k with
      | none => simpa [Value.completedBy] using own
      | some v =>
        obtain ⟨l, alike, held⟩ := mem_of_find? found
        exact closed k v w (congr l k v ((Key.same_comm k l).trans alike) (hm _ held)) own

theorem forall_value_merge {P : Value → Prop} {name : String}
    (closed : ∀ v w, P v → P w → P (v.completedBy w)) {s m : Mapping}
    (hm : ∀ v, (.text name, v) ∈ m → P v) (hs : ∀ v, (.text name, v) ∈ s → P v) {v : Value}
    (h : (.text name, v) ∈ merge m s) : P v := by
  refine forall_merge (P := fun k v => k = .text name → P v) ?_ ?_ ?_ ?_ _ h rfl
  · rintro k l v same held rfl
    rw [Key.same_comm, Key.same_text_iff] at same
    exact held same
  · exact fun k v w hv hw named => closed v w (hv named) (hw named)
  · rintro ⟨k, v⟩ mem rfl
    exact hm v mem
  · rintro ⟨k, v⟩ mem rfl
    exact hs v mem

end Mapping

/-! ## What is settled -/

mutual

theorem Value.at?_completedBy {x : Value} (settled : x.Settled) :
    ∀ (w : Value) {v : Value} {path : List Key}, v.at? path = some x →
      (v.completedBy w).at? path = some x
  | w, v, [], h => by
    obtain rfl : v = x := by simpa [Value.at?] using h
    rw [Value.completedBy_of_isMap_eq_false settled.1 settled.2]
    exact h
  | w, v, k :: path, h => by
    cases v with
    | map m =>
      cases w with
      | map s => exact Value.at?_merge settled s h
      | _ => exact h
    | _ => simp [Value.at?, Value.entries] at h

theorem Value.at?_merge {x : Value} (settled : x.Settled) :
    ∀ (s : List (Key × Value)) {m : Mapping} {k : Key} {path : List Key},
      (Value.map m).at? (k :: path) = some x →
        (Value.map (Mapping.merge m s)).at? (k :: path) = some x
  | [], _, _, _, h => h
  | (j, w) :: s, m, k, path, h => by
    rw [Mapping.merge_cons]
    apply Value.at?_merge settled s
    obtain ⟨v, found, below⟩ := Option.bind_eq_some_iff.mp h
    unfold Value.at?
    simp only [Value.entries] at found ⊢
    rw [Mapping.find?_put]
    by_cases same : j.same k = true
    · have held : Mapping.find? m j = some v := (Mapping.find?_congr same m).trans found
      rw [if_pos same, held]
      exact Value.at?_completedBy settled w below
    · rw [if_neg same, found]
      exact below

end

end RamlDocs
