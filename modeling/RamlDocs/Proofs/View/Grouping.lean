import Mathlib.Data.List.Forall2
import Mathlib.Data.List.Induction
import RamlDocs.Proofs.Definition.Resource
import RamlDocs.Proofs.View.Walk

/-!
# Resources under one name

Of the top-level resources that share a name a view shows the first. `Resource.firstOfNames` says
which these are by their places in the list alone: a resource is kept if none before it has its
name. The groups of a view are those of the kept resources, one for each name, and each has an
endpoint for every method on the way through the tree of its resource (`groups_firstOfNames`). To
keep the first of each name once more changes nothing.

A name is what a resource says itself or is made of its URI, so two resources that are written
differently may share one; which of the two it is plays no part here.
-/

namespace RamlDocs

namespace Resource

/-! ## Trees -/

mutual

/-- The methods on a walk are those of all resources of the tree. -/
theorem methods_walk : ∀ r : Resource, r.walk.map (·.2) = r.subtree.flatMap (·.methods)
  | ⟨relativeUri, uri, displayName, description, type, methods, children, uriParameters,
      annotations⟩ => by
    rw [walk, subtree, List.map_append, List.map_map, List.flatMap_cons, methods_walkAll children]
    exact congrArg (· ++ _) (List.map_id methods)

theorem methods_walkAll :
    ∀ rs : List Resource, (walkAll rs).map (·.2) = (subtrees rs).flatMap (·.methods)
  | [] => rfl
  | r :: rs => by
    rw [walkAll, subtrees, List.map_append, List.flatMap_append, methods_walk r,
      methods_walkAll rs]

end

variable (registry : Registry) (settings : Settings)

/-- A resource has as many endpoints as the resources of its tree have methods. -/
theorem length_endpoints (r : Resource) :
    (r.endpoints registry settings).value.length = (r.subtree.flatMap (·.methods)).length := by
  rw [endpoints_eq_walk, ← methods_walk, List.length_map, List.length_map]

/-! ## The first of each name -/

/-- The resources of which no earlier one has the name, in order. -/
def firstOfNames (rs : List Resource) : List Resource :=
  (rs.zipIdx.filter fun e => !((rs.take e.2).map shownName).contains e.1.shownName).map (·.1)

/-- One more resource at the end is kept if its name is new, and changes nothing before it. -/
theorem firstOfNames_append (rs : List Resource) (r : Resource) :
    firstOfNames (rs ++ [r]) =
      firstOfNames rs ++ if r.shownName ∈ rs.map shownName then [] else [r] := by
  have before : ∀ e ∈ rs.zipIdx, (rs ++ [r]).take e.2 = rs.take e.2 := by
    intro e mem
    have inside : e.2 < rs.length := by
      have bound := List.snd_lt_add_of_mem_zipIdx mem
      omega
    exact List.take_append_of_le_length (Nat.le_of_lt inside)
  have earlier : (rs.zipIdx.filter
        fun e => !(((rs ++ [r]).take e.2).map shownName).contains e.1.shownName) =
      rs.zipIdx.filter fun e => !((rs.take e.2).map shownName).contains e.1.shownName := by
    apply List.filter_congr
    intro e mem
    rw [before e mem]
  unfold firstOfNames
  rw [List.zipIdx_append, List.filter_append, List.map_append, earlier]
  congr 1
  by_cases known : r.shownName ∈ rs.map shownName <;> simp [known]

/-- Every name is still there. -/
theorem mem_names_firstOfNames {rs : List Resource} {name : String} :
    name ∈ (firstOfNames rs).map shownName ↔ name ∈ rs.map shownName := by
  induction rs using List.reverseRecOn with
  | nil => rfl
  | append_singleton rs r ih =>
    rw [firstOfNames_append, List.map_append, List.mem_append, List.map_append, List.mem_append, ih]
    by_cases known : r.shownName ∈ rs.map shownName
    · rw [if_pos known]
      constructor
      · rintro (old | none_)
        · exact .inl old
        · cases none_
      · rintro (old | own)
        · exact .inl old
        · exact .inl (List.mem_singleton.mp own ▸ known)
    · rw [if_neg known]

theorem nodup_names_firstOfNames (rs : List Resource) :
    ((firstOfNames rs).map shownName).Nodup := by
  induction rs using List.reverseRecOn with
  | nil => exact List.nodup_nil
  | append_singleton rs r ih =>
    rw [firstOfNames_append]
    by_cases known : r.shownName ∈ rs.map shownName
    · rw [if_pos known, List.append_nil]
      exact ih
    · rw [if_neg known, List.map_append]
      refine List.nodup_append.mpr ⟨ih, List.pairwise_singleton _ _, ?_⟩
      intro a old b own same
      rw [← List.mem_singleton.mp own, ← same] at known
      exact known (mem_names_firstOfNames.mp old)

/-- Where no two resources share a name, all are kept. -/
theorem firstOfNames_of_nodup {rs : List Resource} (distinct : (rs.map shownName).Nodup) :
    firstOfNames rs = rs := by
  induction rs using List.reverseRecOn with
  | nil => rfl
  | append_singleton rs r ih =>
    rw [List.map_append, List.nodup_append] at distinct
    obtain ⟨others, -, apart⟩ := distinct
    have new : r.shownName ∉ rs.map shownName := by
      intro known
      exact apart _ known _ List.mem_cons_self rfl
    rw [firstOfNames_append, ih others, if_neg new]

theorem firstOfNames_firstOfNames (rs : List Resource) :
    firstOfNames (firstOfNames rs) = firstOfNames rs :=
  firstOfNames_of_nodup (nodup_names_firstOfNames rs)

/-! ## Groups -/

theorem groups_eq_map_firstOfNames (rs : List Resource) :
    (groups registry settings rs).value =
      (firstOfNames rs).map fun r => (r.group registry settings).value := by
  induction rs using List.reverseRecOn with
  | nil => rfl
  | append_singleton rs r ih =>
    -- a group has the name of its resource, so the taken names are those met before
    have taken : r.shownName ∈ (groups registry settings rs).value.map ResourceGroup.name ↔
        r.shownName ∈ rs.map shownName := by
      rw [ih, List.map_map]
      exact mem_names_firstOfNames
    rw [groups_append, firstOfNames_append, List.map_append, ← ih]
    by_cases known : r.shownName ∈ rs.map shownName
    · rw [if_pos known, if_pos (taken.mpr known), List.map_nil]
    · rw [if_neg known, if_neg (mt taken.mp known), List.map_singleton]

/-- The groups of a definition have distinct names. They are those of the first resource of each
name, in order, and each has an endpoint for every method in the tree of its resource. A definition
that has only these first resources has the same groups. -/
theorem groups_firstOfNames (api : Api) :
    ((groups registry settings api.resources).value.map (·.name)).Nodup ∧
      List.Forall₂
        (fun r g => g = (r.group registry settings).value ∧ g.name = r.shownName ∧
          g.endpoints.length = (r.subtree.flatMap (·.methods)).length)
        (firstOfNames api.resources) (groups registry settings api.resources).value ∧
      (groups registry settings (firstOfNames api.resources)).value =
        (groups registry settings api.resources).value := by
  have kept := groups_eq_map_firstOfNames registry settings api.resources
  refine ⟨?_, ?_, ?_⟩
  · rw [kept, List.map_map]
    exact nodup_names_firstOfNames api.resources
  · rw [kept, List.forall₂_map_right_iff, List.forall₂_same]
    intro r _
    exact ⟨rfl, rfl, length_endpoints registry settings r⟩
  · rw [kept, groups_eq_map_firstOfNames, firstOfNames_firstOfNames]

end Resource

end RamlDocs
