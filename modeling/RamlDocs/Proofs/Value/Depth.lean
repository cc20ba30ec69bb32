import RamlDocs.Proofs.Value.Merge
import RamlDocs.Value.Depth

/-!
# Laws of depth

What lies inside a value is less deep than the value. Completing a value makes it no deeper than the
deeper of the two, and no less deep than it was.
-/

namespace RamlDocs

variable {m n : Mapping} {v w : Value} {k : Key} {bound : Nat}

theorem depthOfEntries_le_iff : depthOfEntries m ≤ bound ↔ ∀ e ∈ m, e.2.depth ≤ bound := by
  induction m with
  | nil => simp [depthOfEntries]
  | cons e m ih =>
    obtain ⟨k, v⟩ := e
    rw [depthOfEntries, Nat.max_le, ih, List.forall_mem_cons]

theorem depthOfEntries_append (m n : Mapping) :
    depthOfEntries (m ++ n) = max (depthOfEntries m) (depthOfEntries n) := by
  induction m with
  | nil => simp [depthOfEntries]
  | cons e m ih =>
    obtain ⟨l, w⟩ := e
    rw [List.cons_append, depthOfEntries, ih, depthOfEntries, Nat.max_assoc]

theorem Value.depth_lt_of_mem_entries (h : (k, w) ∈ v.entries) : w.depth < v.depth := by
  cases v with
  | map m =>
    have inside := depthOfEntries_le_iff.mp (Nat.le_refl (depthOfEntries m)) _ h
    rw [Value.depth]
    exact Nat.lt_succ_of_le inside
  | _ => cases h

theorem Value.depth_completedBy {v w : Value} (hv : v.depth ≤ bound) (hw : w.depth ≤ bound) :
    (v.completedBy w).depth ≤ bound := by
  induction bound generalizing v w with
  | zero =>
    rcases Value.completedBy_cases v w with same | same | ⟨m, s, rfl, rfl, -⟩
    · rwa [same]
    · rwa [same]
    · cases hv
  | succ bound ih =>
    rcases Value.completedBy_cases v w with same | same | ⟨m, s, rfl, rfl, merged⟩
    · rwa [same]
    · rwa [same]
    · rw [Value.depth, Nat.add_le_add_iff_right, depthOfEntries_le_iff] at hv hw
      rw [merged, Value.depth, Nat.add_le_add_iff_right, depthOfEntries_le_iff]
      exact Mapping.forall_merge (P := fun _ u => u.depth ≤ bound)
        (fun _ _ _ _ held => held) (fun _ _ _ => ih) hv hw

theorem depthOfEntries_merge_le {s : Mapping} (hm : depthOfEntries m ≤ bound)
    (hs : depthOfEntries s ≤ bound) : depthOfEntries (Mapping.merge m s) ≤ bound := by
  have completed := Value.depth_completedBy (v := .map m) (w := .map s)
    (Nat.succ_le_succ hm) (Nat.succ_le_succ hs)
  exact Nat.le_of_succ_le_succ completed

theorem depthOfEntries_overlay_le (hm : depthOfEntries m ≤ bound)
    (hn : depthOfEntries n ≤ bound) : depthOfEntries (m.overlay n) ≤ bound := by
  unfold Mapping.overlay
  induction n generalizing m with
  | nil => exact hm
  | cons e n ih =>
    obtain ⟨k, v⟩ := e
    rw [depthOfEntries, Nat.max_le] at hn
    refine ih (depthOfEntries_le_iff.mpr fun f mem => ?_) hn.2
    rcases Mapping.mem_put mem with old | ⟨-, -, value⟩
    · exact depthOfEntries_le_iff.mp hm f old
    · rw [value]
      exact hn.1

/-- To put a value that is no less deep in the place of another makes a mapping no less deep. -/
theorem depthOfEntries_le_put (deeper : ∀ w, Mapping.find? m k = some w → w.depth ≤ v.depth) :
    depthOfEntries m ≤ depthOfEntries (m.put k v) := by
  induction m with
  | nil => exact Nat.zero_le _
  | cons e m ih =>
    obtain ⟨l, u⟩ := e
    simp only [Mapping.find?_cons] at deeper
    rw [Mapping.put]
    by_cases same : l.same k = true
    · have own : u.depth ≤ v.depth := deeper u (if_pos same)
      rw [if_pos same, depthOfEntries, depthOfEntries]
      omega
    · have others := ih fun w found => deeper w (by rw [if_neg same, found])
      rw [if_neg same, depthOfEntries, depthOfEntries]
      omega

mutual

theorem Value.depth_le_completedBy : ∀ w v : Value, v.depth ≤ (v.completedBy w).depth
  | w, v => by
    cases v with
    | null => exact Nat.zero_le _
    | map m =>
      cases w with
      | map s => exact Nat.succ_le_succ (depthOfEntries_le_merge s m)
      | _ => exact Nat.le_refl _
    | _ => cases w <;> exact Nat.le_refl _

theorem depthOfEntries_le_merge :
    ∀ s m : List (Key × Value), depthOfEntries m ≤ depthOfEntries (Mapping.merge m s)
  | [], _ => Nat.le_refl _
  | (k, w) :: s, m => by
    rw [Mapping.merge_cons]
    refine Nat.le_trans ?_ (depthOfEntries_le_merge s _)
    refine depthOfEntries_le_put fun v found => ?_
    rw [found]
    exact Value.depth_le_completedBy w v

end

/-- What a mapping holds under a key is no less deep after a merge. -/
theorem Mapping.exists_deeper_of_merge {s : Mapping} (h : Mapping.find? m k = some v) :
    ∃ u, Mapping.find? (Mapping.merge m s) k = some u ∧ v.depth ≤ u.depth := by
  induction s generalizing m v with
  | nil => exact ⟨v, h, Nat.le_refl _⟩
  | cons e s ih =>
    obtain ⟨l, w⟩ := e
    rw [Mapping.merge_cons]
    by_cases same : l.same k = true
    · have held : Mapping.find? m l = some v := (Mapping.find?_congr same m).trans h
      obtain ⟨u, found, deeper⟩ := ih (m := m.put l (v.completedBy w)) (v := v.completedBy w)
        (by rw [Mapping.find?_put, if_pos same])
      rw [held]
      exact ⟨u, found, Nat.le_trans (Value.depth_le_completedBy w v) deeper⟩
    · exact ih (by rw [Mapping.find?_put, if_neg same, h])

end RamlDocs
