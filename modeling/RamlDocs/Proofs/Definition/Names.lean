import RamlDocs.Definition.Parameter

/-!
# Names in order of first occurrence

`undeclared known ns` lists the names of `ns` that are not known, each once. Which names those are
depends on `known` only as a set (`undeclared_congr`), and a list may be taken in parts, where what
the first part holds is known to the second (`undeclared_append`).
-/

namespace RamlDocs

theorem undeclared_cons_of_mem {known : List String} {n : String} (h : n ∈ known)
    (ns : List String) : undeclared known (n :: ns) = undeclared known ns := by
  rw [undeclared, if_pos (by simpa using h)]

theorem undeclared_cons_of_not_mem {known : List String} {n : String} (h : n ∉ known)
    (ns : List String) : undeclared known (n :: ns) = n :: undeclared (n :: known) ns := by
  rw [undeclared, if_neg (by simpa using h)]

theorem undeclared_congr {known other : List String} (ns : List String)
    (same : ∀ n, n ∈ known ↔ n ∈ other) : undeclared known ns = undeclared other ns := by
  induction ns generalizing known other with
  | nil => rfl
  | cons n ns ih =>
    by_cases h : n ∈ known
    · rw [undeclared_cons_of_mem h, undeclared_cons_of_mem ((same n).mp h)]
      exact ih same
    · rw [undeclared_cons_of_not_mem h, undeclared_cons_of_not_mem (mt (same n).mpr h)]
      have grown : ∀ m, m ∈ n :: known ↔ m ∈ n :: other := fun m => by simp [same]
      rw [ih grown]

theorem mem_undeclared_iff {known ns : List String} {n : String} :
    n ∈ undeclared known ns ↔ n ∈ ns ∧ n ∉ known := by
  induction ns generalizing known with
  | nil => simp [undeclared]
  | cons m ns ih =>
    by_cases h : m ∈ known
    · rw [undeclared_cons_of_mem h, ih, List.mem_cons]
      constructor
      · rintro ⟨mem, new⟩
        exact ⟨.inr mem, new⟩
      · rintro ⟨rfl | mem, new⟩
        · exact absurd h new
        · exact ⟨mem, new⟩
    · rw [undeclared_cons_of_not_mem h, List.mem_cons, ih, List.mem_cons, List.mem_cons]
      by_cases same : n = m
      · simp [same, h]
      · simp [same]

theorem mem_append_undeclared_iff {known ns : List String} {n : String} :
    n ∈ known ++ undeclared known ns ↔ n ∈ known ++ ns := by
  rw [List.mem_append, List.mem_append, mem_undeclared_iff]
  by_cases h : n ∈ known <;> simp [h]

theorem undeclared_singleton (known : List String) (n : String) :
    undeclared known [n] = if n ∈ known then [] else [n] := by
  by_cases h : n ∈ known <;> simp [undeclared, h]

theorem undeclared_append (known as bs : List String) :
    undeclared known (as ++ bs) = undeclared known as ++ undeclared (known ++ as) bs := by
  induction as generalizing known with
  | nil => simp [undeclared]
  | cons a as ih =>
    by_cases h : a ∈ known
    · rw [List.cons_append, undeclared_cons_of_mem h, undeclared_cons_of_mem h, ih]
      have same : ∀ n, n ∈ known ++ as ↔ n ∈ known ++ a :: as := by
        intro n
        by_cases hn : n = a <;> simp [hn, h]
      rw [undeclared_congr bs same]
    · rw [List.cons_append, undeclared_cons_of_not_mem h, undeclared_cons_of_not_mem h, ih]
      have same : ∀ n, n ∈ a :: known ++ as ↔ n ∈ known ++ a :: as := by
        intro n
        simp [or_left_comm]
      rw [undeclared_congr bs same]
      rfl

/-- The names that are not known, each at its first occurrence. -/
theorem undeclared_eq_eraseDups (known ns : List String) :
    undeclared known ns = (ns.filter fun n => !known.contains n).eraseDups := by
  induction ns generalizing known with
  | nil => rfl
  | cons n ns ih =>
    by_cases h : n ∈ known
    · rw [undeclared_cons_of_mem h, ih, List.filter_cons_of_neg (by simpa using h)]
    · rw [undeclared_cons_of_not_mem h, ih, List.filter_cons_of_pos (by simpa using h),
        List.eraseDups_cons, List.filter_filter]
      congr 3
      funext m
      by_cases same : m = n <;> simp [same]

/-- Names that are known need not be looked at. -/
theorem undeclared_filter {known : List String} {p : String → Bool} (ns : List String)
    (new : ∀ n, n ∉ known → p n = true) : undeclared known (ns.filter p) = undeclared known ns := by
  induction ns generalizing known with
  | nil => rfl
  | cons n ns ih =>
    by_cases h : n ∈ known
    · rw [undeclared_cons_of_mem h, List.filter_cons]
      split
      · rw [undeclared_cons_of_mem h, ih new]
      · exact ih new
    · rw [List.filter_cons_of_pos (new n h), undeclared_cons_of_not_mem h,
        undeclared_cons_of_not_mem h]
      rw [ih fun m hm => new m fun mem => hm (List.mem_cons_of_mem _ mem)]

/-- A name that is listed once is as good as all its occurrences. -/
theorem undeclared_undeclared {known other : List String} (ns : List String)
    (sub : ∀ n ∈ other, n ∈ known) :
    undeclared known (undeclared other ns) = undeclared known ns := by
  induction ns generalizing known other with
  | nil => rfl
  | cons n ns ih =>
    by_cases h : n ∈ other
    · rw [undeclared_cons_of_mem h, undeclared_cons_of_mem (sub n h)]
      exact ih sub
    · rw [undeclared_cons_of_not_mem h]
      by_cases hk : n ∈ known
      · rw [undeclared_cons_of_mem hk, undeclared_cons_of_mem hk]
        exact ih (by simpa [hk] using sub)
      · rw [undeclared_cons_of_not_mem hk, undeclared_cons_of_not_mem hk]
        rw [ih fun m mem => ?_]
        rcases List.mem_cons.mp mem with rfl | mem
        · exact List.mem_cons_self
        · exact List.mem_cons_of_mem _ (sub m mem)

end RamlDocs
