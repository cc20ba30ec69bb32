import Mathlib.Data.List.TakeDrop
import RamlDocs.Proofs.Outcome
import RamlDocs.Template.BaseUri

/-!
# URIs that can be read

Only the authority of a URI can be refused, for its brackets or for characters beyond ASCII. A URI
that has neither can be read.
-/

namespace RamlDocs.BaseUri

/-- Characters of ASCII other than brackets. -/
def isUnbracketed (c : Char) : Bool := c.toNat < 0x80 && c != '[' && c != ']'

theorem splitScheme_snd_subset (cs : List Char) : (splitScheme cs).2 ⊆ cs := by
  unfold splitScheme
  rw [List.span_eq_takeWhile_dropWhile]
  have after := (List.dropWhile_sublist (· != ':') (l := cs)).subset
  split
  next scheme colon rest split_ =>
    rw [(Prod.mk.inj split_).2] at after
    split
    · exact List.subset_of_cons_subset after
    · exact List.Subset.refl cs
  next => exact List.Subset.refl cs

theorem authority_subset (cs : List Char) : authority cs ⊆ cs := by
  unfold authority
  split
  next rest =>
    intro c mem
    exact List.mem_cons_of_mem _ (List.mem_cons_of_mem _ (List.takeWhile_subset _ mem))
  next => exact List.nil_subset cs

theorem standsForSeparator_eq_false {c : Char} (h : c.toNat < 0x80) :
    standsForSeparator c = false := by
  have large : ∀ n ∈ [0x2047, 0x2048, 0x2049, 0x2100, 0x2101, 0x2105, 0x2106, 0x2a74, 0xfe13,
      0xfe16, 0xfe55, 0xfe56, 0xfe5f, 0xfe6b, 0xff03, 0xff0f, 0xff1a, 0xff1f, 0xff20],
      0x80 ≤ n := by decide
  rw [← Bool.not_eq_true]
  intro stands
  exact absurd (large _ (List.contains_iff_mem.mp stands)) (Nat.not_le.mpr h)

theorem checkAuthority_eq_ok {cs : List Char} (h : ∀ c ∈ cs, isUnbracketed c = true) :
    checkAuthority cs = .ok () := by
  simp only [isUnbracketed, Bool.and_eq_true, decide_eq_true_eq, bne_iff_ne] at h
  have opened : cs.contains '[' = false := by
    simpa using fun mem => (h _ mem).1.2 rfl
  have closed : cs.contains ']' = false := by
    simpa using fun mem => (h _ mem).2 rfl
  have separators : cs.any standsForSeparator = false := by
    simpa using fun c mem => standsForSeparator_eq_false (h c mem).1.1
  unfold checkAuthority
  rw [opened, closed, separators]
  rfl

theorem returns_scheme {uri : String} (h : ∀ c ∈ uri.toList, isUnbracketed c = true) :
    Returns (scheme uri) := by
  have within : authority (splitScheme ((uri.toList.dropWhile isEdge).filter (!isDropped ·))).2 ⊆
      uri.toList := by
    intro c mem
    have kept := splitScheme_snd_subset _ (authority_subset _ mem)
    exact (List.dropWhile_sublist isEdge).subset (List.mem_filter.mp kept).1
  unfold scheme
  simp only [checkAuthority_eq_ok fun c mem => h c (within mem), ok_bind]
  exact ⟨_, rfl, trivial⟩

end RamlDocs.BaseUri
