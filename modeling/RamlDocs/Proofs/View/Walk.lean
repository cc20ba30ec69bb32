import RamlDocs.View.Document

/-!
# The walk through a view

The endpoints of a resource are those of the methods on a walk through its tree from the root
(`Resource.endpoints_eq_walk`), and the groups of a view are the top-level resources without those
whose name was taken before (`Resource.groups_eq_distinct`). Both are stated as maps over lists that
no registry and no setting has a part in.
-/

namespace RamlDocs

/-! ## Endpoints -/

mutual

/-- The methods of a resource and then of the resources below it, each with its resource. -/
def Resource.walk : Resource → List (Resource × Method)
  | ⟨relativeUri, uri, displayName, description, type, methods, children, uriParameters,
      annotations⟩ =>
    let r : Resource := ⟨relativeUri, uri, displayName, description, type, methods, children,
      uriParameters, annotations⟩
    methods.map (fun m => (r, m)) ++ walkAll children

/-- The methods of several resources, one tree after another. -/
def walkAll : List Resource → List (Resource × Method)
  | [] => []
  | r :: rs => r.walk ++ walkAll rs

end

theorem walkAll_eq_flatMap (rs : List Resource) : walkAll rs = rs.flatMap Resource.walk := by
  induction rs with
  | nil => rfl
  | cons r rs ih => rw [walkAll, ih, List.flatMap_cons]

theorem Resource.walk_eq (r : Resource) :
    r.walk = r.methods.map (fun m => (r, m)) ++ r.children.flatMap Resource.walk := by
  rw [← walkAll_eq_flatMap]
  cases r
  rfl

mutual

theorem Resource.endpoints_eq_walk (registry : Registry) (settings : Settings) :
    ∀ r : Resource, (r.endpoints registry settings).value =
      r.walk.map fun e => (e.2.endpoint registry settings e.1).value
  | ⟨relativeUri, uri, displayName, description, type, methods, children, uriParameters,
      annotations⟩ => by
    rw [Resource.endpoints, Resource.walk, List.map_append, List.map_map]
    simp only [Logged.value_bind, Logged.value_pure, Logged.value_mapList]
    rw [endpointsOf_eq_walkAll registry settings children]
    rfl

theorem endpointsOf_eq_walkAll (registry : Registry) (settings : Settings) :
    ∀ rs : List Resource, (endpointsOf registry settings rs).value =
      (walkAll rs).map fun e => (e.2.endpoint registry settings e.1).value
  | [] => rfl
  | r :: rs => by
    rw [endpointsOf, walkAll, List.map_append]
    simp only [Logged.value_bind, Logged.value_pure]
    rw [Resource.endpoints_eq_walk registry settings r, endpointsOf_eq_walkAll registry settings rs]

end

/-! ## Groups -/

/-- The first resource of every name, in order. -/
def Resource.distinct (rs : List Resource) : List Resource :=
  rs.eraseDupsBy fun r s => r.shownName == s.shownName

theorem Resource.groupsAfter_eq_distinct (registry : Registry) (settings : Settings)
    (taken : List String) (rs : List Resource) :
    (Resource.groupsAfter registry settings taken rs).value =
      (Resource.distinct (rs.filter fun r => !taken.contains r.shownName)).map
        fun r => (r.group registry settings).value := by
  induction rs generalizing taken with
  | nil => rfl
  | cons r rs ih =>
    rw [Resource.groupsAfter]
    by_cases known : taken.contains r.shownName = true
    · rw [if_pos known, List.filter_cons_of_neg (by simpa using known)]
      exact ih taken
    · rw [if_neg known, List.filter_cons_of_pos (by simpa using known)]
      simp only [Logged.value_bind, Logged.value_pure]
      rw [ih, Resource.distinct, Resource.distinct, List.eraseDupsBy_cons, List.map_cons,
        List.filter_filter]
      -- to be taken from here on is to be taken before or to have the name of `r`
      have later : ∀ s : Resource,
          (!(r.shownName :: taken).contains s.shownName) =
            (decide ((s.shownName == r.shownName) = false) && !taken.contains s.shownName) := by
        intro s
        by_cases same : s.shownName = r.shownName <;> simp [same]
      simp only [later]

theorem Resource.groups_eq_distinct (registry : Registry) (settings : Settings)
    (rs : List Resource) :
    (Resource.groups registry settings rs).value =
      (Resource.distinct rs).map fun r => (r.group registry settings).value := by
  have all : (rs.filter fun r => !([] : List String).contains r.shownName) = rs :=
    List.filter_eq_self.mpr (by simp)
  rw [Resource.groups, Resource.groupsAfter_eq_distinct, all]

/-- One more resource at the end adds its group, or nothing if its name is taken before. -/
theorem Resource.groupsAfter_append (registry : Registry) (settings : Settings)
    (taken : List String) (rs : List Resource) (r : Resource) :
    (Resource.groupsAfter registry settings taken (rs ++ [r])).value =
      (Resource.groupsAfter registry settings taken rs).value ++
        if r.shownName ∈ taken ++
            (Resource.groupsAfter registry settings taken rs).value.map ResourceGroup.name
        then [] else [(r.group registry settings).value] := by
  induction rs generalizing taken with
  | nil => by_cases known : r.shownName ∈ taken <;> simp [Resource.groupsAfter, known]
  | cons s rs ih =>
    rw [List.cons_append, Resource.groupsAfter, Resource.groupsAfter]
    by_cases known : taken.contains s.shownName = true
    · rw [if_pos known, if_pos known]
      exact ih taken
    · rw [if_neg known, if_neg known]
      simp only [Logged.value_bind, Logged.value_pure, List.cons_append, List.map_cons]
      rw [ih (s.shownName :: taken)]
      -- the name of a group is that of its resource
      have named : (s.group registry settings).value.name = s.shownName := rfl
      have same : r.shownName ∈ s.shownName :: taken ++
            (Resource.groupsAfter registry settings (s.shownName :: taken) rs).value.map
              ResourceGroup.name ↔
          r.shownName ∈ taken ++ (s.group registry settings).value.name ::
            (Resource.groupsAfter registry settings (s.shownName :: taken) rs).value.map
              ResourceGroup.name := by
        rw [named]
        simp only [List.cons_append, List.mem_cons, List.mem_append]
        exact or_left_comm
      simp only [same]

theorem Resource.groups_append (registry : Registry) (settings : Settings) (rs : List Resource)
    (r : Resource) :
    (Resource.groups registry settings (rs ++ [r])).value =
      (Resource.groups registry settings rs).value ++
        if r.shownName ∈ (Resource.groups registry settings rs).value.map ResourceGroup.name
        then [] else [(r.group registry settings).value] :=
  Resource.groupsAfter_append registry settings [] rs r

/-! ## The view -/

theorem Api.document_eq_ok {api : Api} {settings : Settings} {d : Document}
    (h : (api.document settings).outcome = .ok d) :
    ∃ root, api.root = .ok root ∧ d = (api.documentFor settings root).value := by
  unfold Api.document at h
  rw [Traced.outcome_bind, Traced.outcome_ofExcept] at h
  cases hr : api.root with
  | error f => rw [hr] at h; cases h
  | ok root =>
    rw [hr] at h
    cases h
    exact ⟨root, rfl, rfl⟩

theorem Api.resources_document {api : Api} {settings : Settings} {d : Document}
    (h : (api.document settings).outcome = .ok d) :
    d.resources = (Resource.distinct api.resources).map
      fun r => (r.group (Registry.ofApi api) settings).value := by
  obtain ⟨root, _, rfl⟩ := Api.document_eq_ok h
  exact Resource.groups_eq_distinct _ settings api.resources

end RamlDocs
