import RamlDocs.Proofs.Value.Vocabulary

/-!
# What a merge has nothing to add to

A value absorbs another if the other has nothing to complete in it: it is null only where the other
is null too, and where both are mappings it has each key of the other, with a value that absorbs
the other's (`Value.Absorbs`). To complete a value by one that it absorbs changes nothing
(`Value.completedBy_of_absorbs`). A completed value absorbs what completed it
(`Value.absorbs_completedBy_self`), and what a value absorbs it absorbs still after it has been
completed by any other (`Value.Absorbs.completedBy`): nulls that are filled and mappings that grow
in between stand in nobody's way. So a source that comes again adds nothing, wherever it comes
(`Mapping.foldl_merge_repeated`).

The relation is needed because completing is not associative, so that sources cannot be grouped to
bring two equal ones together: a number between two mappings keeps the second out if the two are
taken together first, and is without effect if the first mapping is completed by it.
-/

namespace RamlDocs

mutual

/-- The value has all that the second value would complete it by. -/
def Value.Absorbs : Value → Value → Prop
  | _, .null => True
  | .map m, .map s => Mapping.Absorbs m s
  | v, _ => v ≠ .null

/-- The mapping has each of the entries, with a value that absorbs that of the entry. -/
def Mapping.Absorbs (m : Mapping) : List (Key × Value) → Prop
  | [] => True
  | (k, w) :: s => (∃ v, Mapping.find? m k = some v ∧ v.Absorbs w) ∧ Mapping.Absorbs m s

end

theorem Value.absorbs_null (v : Value) : v.Absorbs .null := by
  cases v <;> exact trivial

theorem Value.Absorbs.eq_null {w : Value} (h : Value.null.Absorbs w) : w = .null := by
  cases w with
  | null => rfl
  | _ => exact absurd rfl h

theorem Value.Settled.absorbs {v : Value} (settled : v.Settled) (w : Value) : v.Absorbs w := by
  obtain ⟨notNull, flat⟩ := settled
  cases w with
  | null => exact Value.absorbs_null v
  | map s =>
    cases v with
    | map m => cases flat
    | _ => exact notNull
  | _ => cases v <;> exact notNull

/-- Only a mapping has something to add to a mapping. -/
theorem Value.map_absorbs {w : Value} (flat : w.isMap = false) (m : Mapping) :
    (Value.map m).Absorbs w := by
  cases w with
  | null => exact trivial
  | map s => cases flat
  | _ => exact Value.noConfusion

theorem Mapping.absorbs_iff {m : Mapping} {s : List (Key × Value)} :
    m.Absorbs s ↔ ∀ e ∈ s, ∃ v, find? m e.1 = some v ∧ v.Absorbs e.2 := by
  induction s with
  | nil => simp [Mapping.Absorbs]
  | cons e s ih => rw [Mapping.Absorbs, ih, List.forall_mem_cons]

/-! ## Nothing to add -/

theorem Mapping.put_of_find? {m : Mapping} {k : Key} {v : Value} (h : find? m k = some v) :
    put m k v = m := by
  induction m with
  | nil => cases h
  | cons e m ih =>
    obtain ⟨l, w⟩ := e
    rw [find?_cons] at h
    unfold put
    by_cases same : l.same k = true
    · rw [if_pos same] at h ⊢
      rw [Option.some.inj h]
    · rw [if_neg same] at h ⊢
      rw [ih h]

mutual

theorem Value.completedBy_of_absorbs :
    ∀ (w : Value) {v : Value}, v.Absorbs w → v.completedBy w = v
  | w, v, h => by
    cases v with
    | null => rw [h.eq_null, Value.completedBy]
    | map m =>
      cases w with
      | map s => rw [Value.completedBy, Mapping.merge_of_absorbs s h]
      | _ => rfl
    | _ => exact Value.completedBy_of_isMap_eq_false (by simp) rfl w

theorem Mapping.merge_of_absorbs :
    ∀ (s : List (Key × Value)) {m : Mapping}, m.Absorbs s → Mapping.merge m s = m
  | [], _, _ => rfl
  | (k, w) :: s, m, h => by
    obtain ⟨⟨v, found, absorbs⟩, rest⟩ := h
    rw [Mapping.merge_cons, found, Option.getD_some, Value.completedBy_of_absorbs w absorbs,
      Mapping.put_of_find? found, Mapping.merge_of_absorbs s rest]

end

/-! ## Stable under further merges -/

mutual

/-- What a value absorbs it absorbs after it has been completed. -/
theorem Value.Absorbs.completedBy :
    ∀ (u : Value) {v w : Value}, v.Absorbs w → (v.completedBy u).Absorbs w
  | u, v, w, h => by
    cases v with
    | null =>
      rw [h.eq_null]
      exact Value.absorbs_null _
    | map m =>
      cases u with
      | map t =>
        cases w with
        | map s => exact Mapping.Absorbs.merge t h
        | _ => exact Value.map_absorbs rfl _
      | _ => exact h
    | _ => rwa [Value.completedBy_of_isMap_eq_false (by simp) rfl]

theorem Mapping.Absorbs.merge :
    ∀ (t : List (Key × Value)) {m : Mapping} {s : List (Key × Value)}, m.Absorbs s →
      (Mapping.merge m t).Absorbs s
  | [], _, _, h => h
  | (j, u) :: t, m, s, h => by
    rw [Mapping.merge_cons]
    refine Mapping.Absorbs.merge t (Mapping.absorbs_iff.mpr fun e mem => ?_)
    obtain ⟨v, found, absorbs⟩ := Mapping.absorbs_iff.mp h e mem
    rw [Mapping.find?_put]
    by_cases same : j.same e.1 = true
    · have held : Mapping.find? m j = some v := (Mapping.find?_congr same m).trans found
      rw [if_pos same, held]
      exact ⟨_, rfl, Value.Absorbs.completedBy u absorbs⟩
    · rw [if_neg same]
      exact ⟨v, found, absorbs⟩

end

theorem Mapping.Absorbs.foldl_merge {m : Mapping} {s : List (Key × Value)} (h : m.Absorbs s)
    (ts : List Mapping) : (ts.foldl Mapping.merge m).Absorbs s := by
  induction ts generalizing m with
  | nil => exact h
  | cons t ts ih => exact ih (h.merge t)

/-! ## What has just been merged -/

variable {V : Vocabulary}

/-- A value without repeated keys absorbs itself: this is what a null becomes when it is filled. -/
theorem Value.absorbs_self (w : Value) (h : w.within V = true) : w.Absorbs w := by
  refine Value.within_induction (P := fun w => w.Absorbs w) ?_ ?_ ?_ w h
  · intro v leaf _
    cases v with
    | null => exact trivial
    | list vs => cases leaf
    | map m => cases leaf
    | _ => exact Value.noConfusion
  · exact fun vs _ => Value.noConfusion
  · intro m within all
    refine Mapping.absorbs_iff.mpr fun e mem => ⟨e.2, ?_, all e mem⟩
    exact (distinct_of_within within).find?_of_mem mem

mutual

/-- A completed value has all that completed it. -/
theorem Value.absorbs_completedBy_self :
    ∀ (w : Value), w.within V = true → ∀ v : Value, (v.completedBy w).Absorbs w
  | w, h, v => by
    cases v with
    | null =>
      rw [Value.completedBy]
      exact Value.absorbs_self w h
    | map m =>
      cases w with
      | map s => exact Mapping.absorbs_merge_self s h m
      | _ => exact Value.map_absorbs rfl m
    | _ =>
      rw [Value.completedBy_of_isMap_eq_false (by simp) rfl]
      exact Value.Settled.absorbs ⟨by simp, rfl⟩ w

theorem Mapping.absorbs_merge_self :
    ∀ (s : List (Key × Value)), entriesWithin V s = true → ∀ m : Mapping,
      (Mapping.merge m s).Absorbs s
  | [], _, _ => trivial
  | (k, w) :: s, h, m => by
    simp only [entriesWithin, Bool.and_eq_true] at h
    obtain ⟨⟨⟨-, value⟩, -⟩, rest⟩ := h
    rw [Mapping.merge_cons]
    have own := Value.absorbs_completedBy_self w value ((Mapping.find? m k).getD .null)
    have put : (m.put k (((Mapping.find? m k).getD .null).completedBy w)).Absorbs [(k, w)] := by
      refine ⟨⟨_, ?_, own⟩, trivial⟩
      rw [Mapping.find?_put, if_pos (Key.same_self k)]
    exact ⟨(put.merge s).1, Mapping.absorbs_merge_self s rest _⟩

end

/-- A source that came before adds nothing, whatever came in between. -/
theorem Mapping.foldl_merge_repeated {t : Mapping} (within : entriesWithin V t = true)
    (before between after : List Mapping) (m : Mapping) :
    (before ++ t :: (between ++ t :: after)).foldl Mapping.merge m =
      (before ++ t :: (between ++ after)).foldl Mapping.merge m := by
  simp only [List.foldl_append, List.foldl_cons]
  have absorbs := (Mapping.absorbs_merge_self t within (before.foldl Mapping.merge m)).foldl_merge
    between
  rw [Mapping.merge_of_absorbs t absorbs]

end RamlDocs
