import RamlDocs.Proofs.Definition.Agreement
import RamlDocs.Proofs.Definition.Assembly
import RamlDocs.Proofs.Definition.Resource
import RamlDocs.Proofs.Definition.ResourceKeys
import RamlDocs.Proofs.Value.Depth
import RamlDocs.Proofs.View.Walk

/-!
# One resource more

Every part of a definition is built with the whole root in reach, but it asks the root only for
facets, and no facet has a name that begins with a slash. So a resource that is added to a root as
its last entry changes nothing of what is built from the others: the definition keeps all its
parts and gains one resource (`Api.ofRoot_of_resource_added`), and the view keeps all it shows and
gains at most one group (`view_of_resource_added`).
-/

namespace RamlDocs

variable {root : Mapping} {k : String} {v : Value}

/-! ## The root -/

/-- A root with one resource more has the facets it had. -/
theorem Mapping.get_set_resource (slash : k.startsWith "/" = true) {name : String}
    (plain : name.toList.head? ≠ some '/') : (root.set k v).get name = root.get name := by
  have other : ¬ (Key.text k).same (.text name) = true := by
    rw [Key.same_text_iff]
    intro same
    have key := resourceKey?_eq_some_iff.mpr ⟨rfl, slash⟩
    rw [same, resourceKey?_text plain] at key
    cases key
  unfold Mapping.get Mapping.get? Mapping.set
  rw [Mapping.find?_put, if_neg other]

/-! ## What is built from the root -/

/-- What is declared in a root is found as before. -/
theorem Scope.agrees_of_resource_added (slash : k.startsWith "/" = true)
    (libraries : List (String × Mapping)) (mediaType : String) :
    Scope.Agrees ⟨root.set k v, libraries, mediaType⟩ ⟨root, libraries, mediaType⟩ where
  lookup := by
    intro kind known name
    have plain : ∀ kind ∈ lookupKinds, kind.toList.head? ≠ some '/' := by decide
    unfold Scope.lookup Scope.source?
    rcases Scope.splitName name with ⟨_ | owner, inner⟩
    · simp only [Mapping.get_set_resource slash (plain kind known)]
    · rfl
  schema? := by
    intro name
    unfold Scope.schema? Scope.source?
    rcases Scope.splitName name with ⟨_ | owner, inner⟩
    · simp (disch := decide) only [TypeDecl.declarations, Mapping.get_set_resource slash]
    · rfl
  mediaType := rfl

/-- The frame around the resources keeps all but the root itself. -/
theorem Api.frame_of_resource_added {uri : Option String} {bare : Api}
    (slash : k.startsWith "/" = true) (h : Api.frame root uri = .ok bare) :
    Api.frame (root.set k v) uri = .ok { bare with raw := some (root.set k v) } := by
  obtain ⟨title, ht, h⟩ := bind_eq_ok.mp h
  obtain ⟨version, hv, h⟩ := bind_eq_ok.mp h
  obtain ⟨baseUriParameters, hu, h⟩ := bind_eq_ok.mp h
  obtain ⟨protocols, hp, h⟩ := bind_eq_ok.mp h
  obtain ⟨description, hd, h⟩ := bind_eq_ok.mp h
  obtain ⟨documentation, hm, h⟩ := bind_eq_ok.mp h
  obtain ⟨securedBy, hb, h⟩ := bind_eq_ok.mp h
  obtain ⟨securitySchemes, hs, h⟩ := bind_eq_ok.mp h
  obtain ⟨types, hy, h⟩ := bind_eq_ok.mp h
  cases h
  unfold Api.frame
  simp (disch := decide) only [TypeDecl.all, TypeDecl.declarations, Mapping.get_set_resource slash]
  refine bind_eq_ok.mpr ⟨title, ht, bind_eq_ok.mpr ⟨version, hv, ?_⟩⟩
  refine bind_eq_ok.mpr ⟨baseUriParameters, hu, bind_eq_ok.mpr ⟨protocols, hp, ?_⟩⟩
  refine bind_eq_ok.mpr ⟨description, hd, bind_eq_ok.mpr ⟨documentation, hm, ?_⟩⟩
  refine bind_eq_ok.mpr ⟨securedBy, hb, bind_eq_ok.mpr ⟨securitySchemes, hs, ?_⟩⟩
  exact bind_eq_ok.mpr ⟨types, hy, rfl⟩

/-- The resources that were there are expanded as before, and the added one comes after them. -/
theorem Api.resources_of_resource_added {libraries : List (String × Mapping)} {mediaType : String}
    {old new : List Resource} (absent : root.has k = false) (slash : k.startsWith "/" = true)
    (before : (Api.resourcesOf ⟨root, libraries, mediaType⟩).outcome = .ok old)
    (after : (Api.resourcesOf ⟨root.set k v, libraries, mediaType⟩).outcome = .ok new) :
    ∃ r, r.relativeUri = k ∧ new = old ++ [r] := by
  unfold Api.resourcesOf at before after
  rw [Traced.outcome_mapList] at before after
  have agree : Scope.Agrees ⟨root.set k v, libraries, mediaType⟩ ⟨root, libraries, mediaType⟩ :=
    Scope.agrees_of_resource_added slash libraries mediaType
  have deeper : (Value.map root).depth ≤ (Value.map (root.set k v)).depth := by
    rw [Mapping.set_of_absent absent, Value.depth, Value.depth, depthOfEntries_append]
    omega
  have key := resourceKey?_eq_some_iff.mpr ⟨rfl, slash⟩
  have children : Resource.childrenOf (root.set k v) = Resource.childrenOf root ++ [(k, v)] := by
    rw [Mapping.set_of_absent absent, Resource.childrenOf_append, Resource.childrenOf_cons, key]
    rfl
  simp only [agree.ofDeclaration] at after
  rw [children, List.mapM_append] at after
  obtain ⟨kept, hk, after⟩ := bind_eq_ok.mp after
  obtain ⟨added, ha, after⟩ := bind_eq_ok.mp after
  cases after
  have same : kept = old := by
    have further := (mapM_eq_ok_iff.mp before).imp
      fun _ _ => Resource.ofDeclaration_mono (Nat.add_le_add_right deeper expansionLimit)
    exact Except.ok.inj (hk.symm.trans (mapM_eq_ok_iff.mpr further))
  obtain ⟨r, rest, hr, none_, rfl⟩ := List.forall₂_cons_left_iff.mp (mapM_eq_ok_iff.mp ha)
  obtain rfl := List.forall₂_nil_left_iff.mp none_
  obtain ⟨_, _, _, expansion⟩ := Resource.expansion_of_ofDeclaration hr
  exact ⟨r, expansion.relativeUri, by rw [same]⟩

/-! ## The definition and its view -/

/-- A definition with one resource more is the definition with that resource after the others. -/
theorem Api.ofRoot_of_resource_added {files : Files.Entry} {base : Files.Path} {api api' : Api}
    (absent : root.has k = false) (slash : k.startsWith "/" = true)
    (before : (Api.ofRoot files base root).outcome = .ok api)
    (after : (Api.ofRoot files base (root.set k v)).outcome = .ok api') :
    ∃ r, r.relativeUri = k ∧
      api' = { api with resources := api.resources ++ [r], raw := some (root.set k v) } := by
  obtain ⟨used, names, uri, old, bare, parts, rfl⟩ := Api.ofRoot_eq_ok_iff.mp before
  obtain ⟨used', names', uri', new, bare', parts', rfl⟩ := Api.ofRoot_eq_ok_iff.mp after
  have libraries := parts'.libraries
  have baseUri := parts'.baseUri
  have scope := parts'.scope
  unfold Api.librariesOf at libraries
  unfold Scope.ofRoot at scope
  simp (disch := decide) only [Mapping.get_set_resource slash] at libraries baseUri scope
  obtain rfl : used' = used := Except.ok.inj (libraries.symm.trans parts.libraries)
  obtain rfl : uri' = uri := Except.ok.inj (baseUri.symm.trans parts.baseUri)
  obtain ⟨mediaType, hm, rfl⟩ := map_eq_ok.mp parts.scope
  obtain ⟨mediaType', hm', rfl⟩ := map_eq_ok.mp scope
  obtain rfl : mediaType' = mediaType := Except.ok.inj (hm'.symm.trans hm)
  have frame := Api.frame_of_resource_added (v := v) slash parts.frame
  obtain rfl := Except.ok.inj (parts'.frame.symm.trans frame)
  obtain ⟨r, uri, rfl⟩ :=
    Api.resources_of_resource_added absent slash parts.resources parts'.resources
  exact ⟨r, uri, rfl⟩

/-- What is shown of a definition beside its resources is read from the root it was built from. -/
theorem Api.root_of_ofRoot {files : Files.Entry} {base : Files.Path} {api : Api} {shown : Mapping}
    (built : (Api.ofRoot files base root).outcome = .ok api) (h : api.root = .ok shown) :
    shown = root := by
  obtain ⟨used, names, uri, declared, bare, parts, rfl⟩ := Api.ofRoot_eq_ok_iff.mp built
  have raw : bare.raw = some root := Api.raw_frame parts.frame
  simp only [Api.root, Api.filled, raw] at h
  split at h
  · exact (Except.ok.inj h).symm
  · cases h

/-- A root with one resource more, as its last entry, has the view it had: every field but the
resources is the same, and the resources are the same followed by that of the new key, which is left
out exactly if its name is taken before. -/
theorem view_of_resource_added {files : Files.Entry} {base : Files.Path} {settings : Settings}
    {d d' : Document} (absent : root.has k = false) (slash : k.startsWith "/" = true)
    (before : (Api.ofRoot files base root >>= fun api => api.document settings).outcome = .ok d)
    (after : (Api.ofRoot files base (root.set k v) >>=
      fun api => api.document settings).outcome = .ok d') :
    ∃ api r, (Api.ofRoot files base root).outcome = .ok api ∧
      (Api.ofRoot files base (root.set k v)).outcome =
        .ok { api with resources := api.resources ++ [r], raw := some (root.set k v) } ∧
      r.relativeUri = k ∧
      d' = { d with
        resources := d.resources ++
          if r.shownName ∈ d.resources.map ResourceGroup.name then []
          else [(r.group (Registry.ofApi api) settings).value] } := by
  obtain ⟨api, loaded, shown⟩ := Traced.outcome_bind_eq_ok.mp before
  obtain ⟨api', loaded', shown'⟩ := Traced.outcome_bind_eq_ok.mp after
  obtain ⟨r, uri, rfl⟩ := Api.ofRoot_of_resource_added absent slash loaded loaded'
  refine ⟨api, r, loaded, loaded', uri, ?_⟩
  obtain ⟨_, same, rfl⟩ := Api.document_eq_ok shown
  obtain ⟨_, same', rfl⟩ := Api.document_eq_ok shown'
  obtain rfl := Api.root_of_ofRoot loaded same
  obtain rfl := Api.root_of_ofRoot loaded' same'
  unfold Api.documentFor shownSchemas shownTypes
  simp (disch := decide) only [Logged.value_bind, Logged.value_pure,
    Mapping.get_set_resource slash]
  rw [Resource.groups_append]
  rfl

/-- A root with a type and two resources. -/
def shopRoot : Mapping :=
  [("title", .text "Shop"),
    ("types", .record [("Item", .record [("properties", .record [("name", .text "string")])])]),
    ("/items", .record [("get", .record [("body", .text "Item")])]),
    ("/orders", .record [("displayName", .text "Orders"), ("post", .null)])].map
      fun e => (.text e.1, e.2)

/-- The root with a resource that is shown under the name of another. -/
def grownShopRoot : Mapping :=
  shopRoot.set "/baskets" (.record [("displayName", .text "Orders"), ("get", .null)])

/-- The added resource is not shown, since its name is taken. -/
theorem view_of_grownShopRoot :
    ∃ d, (Api.ofRoot (.dir []) ⟨[]⟩ shopRoot >>= fun api => api.document {}).outcome = .ok d ∧
      (Api.ofRoot (.dir []) ⟨[]⟩ grownShopRoot >>= fun api => api.document {}).outcome = .ok d ∧
      d.resources.map ResourceGroup.name = ["Items", "Orders"] := by
  have absent : shopRoot.has "/baskets" = false := by decide +kernel
  have slash : "/baskets".startsWith "/" = true := by decide +kernel
  have computed : ∀ root ∈ [shopRoot, grownShopRoot],
      (Api.ofRoot (.dir []) ⟨[]⟩ root >>= fun api => api.document {}).outcome.toOption.map
        (fun d => d.resources.map ResourceGroup.name) = some ["Items", "Orders"] := by
    decide +kernel
  obtain ⟨d, before, names⟩ := exists_ok_of_toOption (computed shopRoot (by simp))
  obtain ⟨d', after, names'⟩ := exists_ok_of_toOption (computed grownShopRoot (by simp))
  obtain ⟨api, r, -, -, -, same⟩ := view_of_resource_added absent slash before after
  have taken : r.shownName ∈ d.resources.map ResourceGroup.name := by
    by_contra new
    rw [same, if_neg new, List.map_append, names] at names'
    simp at names'
  rw [if_pos taken, List.append_nil] at same
  rw [same] at after
  exact ⟨d, before, after, names⟩

end RamlDocs
