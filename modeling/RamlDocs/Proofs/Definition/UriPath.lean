import RamlDocs.Proofs.Definition.Assembly
import RamlDocs.Proofs.Definition.Names
import RamlDocs.Proofs.Definition.Resource
import RamlDocs.Proofs.Definition.ResourceKeys
import RamlDocs.Proofs.Template.Variables

/-!
# URIs along the way to a resource

A resource at any depth is reached from a top-level one by going from resource to child. Its URI is
made of the relative URIs on that way, and so are the variables of its URI: the keys of resources
begin with a slash, at which no variable goes on. Every resource has a parameter for each variable
of its own relative URI, declared or not, so all variables of its URI are parameters somewhere on
the way (`uriCovered_of_reached`).

What a resource declares stands in its completed mapping. `Resource.DeclaredBy` follows the way
through these mappings, from the root down; children may come from the types of their parent.
-/

namespace RamlDocs

/-! ## Ways -/

/-- `r` is reached from a resource of `tops`, going from resource to child through those in
`above`. -/
inductive Resource.Reached : List Resource → List Resource → Resource → Prop
  | top {tops : List Resource} {r : Resource} (mem : r ∈ tops) : Reached tops [] r
  | child {tops above : List Resource} {a r : Resource} (mem : a ∈ tops)
      (way : Reached a.children above r) : Reached tops (a :: above) r

/-- The mapping `outer` of the resource at `parentUri` declares `r`, through the resources in
`above`; `m` is the completed mapping of `r`. -/
inductive Resource.DeclaredBy (scope : Scope) :
    String → Mapping → List Resource → Resource → Mapping → Prop
  | top {parentUri : String} {outer : Mapping} {depth : Nat} {d : String × Value} {r : Resource}
      {m : Mapping} (mem : d ∈ Resource.childrenOf outer)
      (expansion : Resource.Expansion scope parentUri depth d r m) :
      DeclaredBy scope parentUri outer [] r m
  | child {parentUri : String} {outer inner : Mapping} {depth : Nat} {d : String × Value}
      {a r : Resource} {above : List Resource} {m : Mapping}
      (mem : d ∈ Resource.childrenOf outer)
      (expansion : Resource.Expansion scope parentUri depth d a inner)
      (way : DeclaredBy scope (parentUri ++ d.1) inner above r m) :
      DeclaredBy scope parentUri outer (a :: above) r m

namespace Resource

variable {scope : Scope} {parentUri : String} {outer m : Mapping} {tops above : List Resource}
  {r : Resource}

theorem Reached.cons (way : Reached tops above r) (a : Resource) : Reached (a :: tops) above r := by
  cases way with
  | top mem => exact .top (List.mem_cons_of_mem _ mem)
  | child mem way => exact .child (List.mem_cons_of_mem _ mem) way

mutual

/-- What is in a tree is its root or is reached from there. -/
theorem reached_of_mem_subtree : ∀ (a : Resource) {r : Resource}, r ∈ a.subtree →
    r = a ∨ ∃ above, Reached a.children above r
  | ⟨_, _, _, _, _, _, children, _, _⟩, _, h => by
    rcases List.mem_cons.mp h with own | below
    · exact .inl own
    · exact .inr (reached_of_mem_subtrees children below)

theorem reached_of_mem_subtrees : ∀ (rs : List Resource) {r : Resource}, r ∈ subtrees rs →
    ∃ above, Reached rs above r
  | [], _, h => by cases h
  | a :: rs, _, h => by
    rcases List.mem_append.mp h with own | later
    · rcases reached_of_mem_subtree a own with rfl | ⟨above, way⟩
      · exact ⟨[], .top List.mem_cons_self⟩
      · exact ⟨a :: above, .child List.mem_cons_self way⟩
    · obtain ⟨above, way⟩ := reached_of_mem_subtrees rs later
      exact ⟨above, way.cons a⟩

end

/-- What is reached in the resources expanded from a mapping is declared by the mapping. -/
theorem exists_declaredBy (way : Reached tops above r) {depth : Nat}
    (expanded : (childrenOf outer).mapM
      (fun d => (ofDeclaration scope parentUri depth d).outcome) = .ok tops) :
    ∃ m, DeclaredBy scope parentUri outer above r m := by
  induction way generalizing parentUri outer depth with
  | top mem =>
    obtain ⟨d, declared, came⟩ := exists_of_mem_mapM expanded mem
    obtain ⟨_, m, _, expansion⟩ := expansion_of_ofDeclaration came
    exact ⟨m, .top declared expansion⟩
  | child mem _ ih =>
    obtain ⟨d, declared, came⟩ := exists_of_mem_mapM expanded mem
    obtain ⟨_, inner, _, expansion⟩ := expansion_of_ofDeclaration came
    obtain ⟨m, way⟩ := ih expansion.children
    exact ⟨m, .child declared expansion way⟩

/-- The last resource of a way is expanded to its mapping. -/
theorem DeclaredBy.expansion (h : DeclaredBy scope parentUri outer above r m) :
    ∃ uri depth d, Expansion scope uri depth d r m := by
  induction h with
  | top _ expansion => exact ⟨_, _, _, expansion⟩
  | child _ _ _ ih => exact ih

/-- Every resource on a way is expanded to some mapping. -/
theorem DeclaredBy.expansions (h : DeclaredBy scope parentUri outer above r m) :
    ∀ a ∈ above ++ [r], ∃ uri depth d n, Expansion scope uri depth d a n := by
  induction h with
  | top _ expansion =>
    intro a mem
    obtain rfl := List.mem_singleton.mp mem
    exact ⟨_, _, _, _, expansion⟩
  | child _ expansion _ ih =>
    intro a mem
    rcases List.mem_cons.mp mem with rfl | mem
    · exact ⟨_, _, _, _, expansion⟩
    · exact ih a mem

/-! ## URIs -/

theorem startsWith_of_mem_childrenOf {d : String × Value} (mem : d ∈ childrenOf outer) :
    d.1.startsWith "/" = true :=
  (resourceKey?_eq_some_iff.mp (mem_childrenOf_iff.mp mem).1).2

theorem DeclaredBy.uri_eq (h : DeclaredBy scope parentUri outer above r m) :
    r.uri = parentUri ++ String.join ((above ++ [r]).map (·.relativeUri)) := by
  induction h with
  | top _ expansion => simp [expansion.uri, expansion.relativeUri, String.join]
  | child _ expansion _ ih =>
    rw [ih]
    simp [expansion.relativeUri, String.append_assoc]

/-- No variable is made or lost where a relative URI follows another. -/
theorem DeclaredBy.variableNames_uri (h : DeclaredBy scope parentUri outer above r m) :
    Uri.variableNames r.uri = Uri.variableNames parentUri ++
      (above ++ [r]).flatMap fun a => Uri.variableNames a.relativeUri := by
  induction h with
  | top mem expansion =>
    rw [expansion.uri, Uri.variableNames_append (startsWith_of_mem_childrenOf mem)]
    simp [expansion.relativeUri]
  | child mem expansion _ ih =>
    rw [ih, Uri.variableNames_append (startsWith_of_mem_childrenOf mem), List.append_assoc,
      List.cons_append, List.flatMap_cons, expansion.relativeUri]

end Resource

/-! ## Parameters -/

/-- What a parameter takes from its declaration, part by part. -/
structure Parameter.Read (k : Key) (v : Value) (p : Parameter) : Prop where
  /-- The name is that of the key, without the mark of optional ones. -/
  name : (Facet.optionalName k).map (·.1) = .ok p.name
  description : Facet.text? ((Facet.declaration v).get "description") = .ok p.description
  minLength : Facet.int? ((Facet.declaration v).get "minLength") = .ok p.minLength
  maxLength : Facet.int? ((Facet.declaration v).get "maxLength") = .ok p.maxLength
  raw : p.raw =
    ((Mapping.overlay [(.text "name", .text p.name)] (Facet.declaration v)).set "type"
      (.list (p.types.map .text))).set "required" (.bool p.required)

theorem Parameter.read_of_ofDeclaration {k : Key} {v : Value} {p : Parameter}
    (h : Parameter.ofDeclaration k v = .ok p) : Parameter.Read k v p := by
  obtain ⟨⟨name, optional⟩, named, h⟩ := bind_eq_ok.mp h
  obtain ⟨_, description, h⟩ := bind_eq_ok.mp h
  obtain ⟨_, _, h⟩ := bind_eq_ok.mp h
  obtain ⟨_, minLength, h⟩ := bind_eq_ok.mp h
  obtain ⟨_, maxLength, h⟩ := bind_eq_ok.mp h
  cases h
  exact ⟨by rw [named]; rfl, description, minLength, maxLength, rfl⟩

/-- A declared parameter is named by its key, without the mark of optional ones. -/
theorem Parameter.name_ofDeclaration {k : Key} {v : Value} {p : Parameter}
    (h : Parameter.ofDeclaration k v = .ok p) : (Facet.optionalName k).map (·.1) = .ok p.name :=
  (Parameter.read_of_ofDeclaration h).name

theorem Parameter.names_declared {v : Value} {ps : List Parameter}
    (h : Parameter.declared v = .ok ps) :
    v.entries.mapM (fun e => (Facet.optionalName e.1).map (·.1)) = .ok (ps.map (·.name)) := by
  have each := mapM_eq_ok_iff.mp h
  rw [mapM_eq_ok_iff, List.forall₂_map_right_iff]
  exact each.imp fun e p came => Parameter.name_ofDeclaration came

/-- There is a parameter for each variable, declared or not. -/
theorem Parameter.mem_names_all {v : Value} {names : List String} {ps : List Parameter}
    (h : Parameter.all v names = .ok ps) {x : String} (mem : x ∈ names) :
    x ∈ ps.map (·.name) := by
  obtain ⟨declared, -, rfl⟩ := map_eq_ok.mp h
  have implied : ((undeclared (declared.map (·.name)) names).map Parameter.implicit).map (·.name) =
      undeclared (declared.map (·.name)) names := by
    rw [List.map_map]
    exact List.map_id _
  rw [List.map_append, implied, mem_append_undeclared_iff]
  exact List.mem_append_right _ mem

namespace Resource

variable {scope : Scope} {parentUri : String} {depth : Nat} {d : String × Value} {r : Resource}
  {m : Mapping}

theorem Expansion.exists_parameters (h : Expansion scope parentUri depth d r m) :
    ∃ declared, Parameter.declared (m.get "uriParameters") = .ok declared ∧
      r.uriParameters = declared ++ (undeclared (declared.map (·.name))
        (Uri.variableNames r.relativeUri)).map Parameter.implicit := by
  obtain ⟨declared, came, all⟩ := map_eq_ok.mp h.uriParameters
  exact ⟨declared, came, by rw [← all, h.relativeUri]⟩

/-- A resource has a parameter for every variable of its relative URI. -/
theorem Expansion.mem_names_uriParameters (h : Expansion scope parentUri depth d r m) {x : String}
    (mem : x ∈ Uri.variableNames r.relativeUri) : x ∈ r.uriParameters.map (·.name) :=
  Parameter.mem_names_all h.uriParameters (h.relativeUri ▸ mem)

/-- What the URI of a resource has to do with the way to it, through the resources in `above`, and
with the parameters that it and they have; `m` is the completed mapping of the resource. -/
structure UriCovered (above : List Resource) (r : Resource) (m : Mapping) : Prop where
  /-- The URI is made of the relative URIs on the way. -/
  uri : r.uri = String.join ((above ++ [r]).map (·.relativeUri))
  /-- Its variables are those of the relative URIs, one after another. -/
  joined : Uri.variableNames r.uri =
    (above ++ [r]).flatMap fun a => Uri.variableNames a.relativeUri
  /-- Each of them is a parameter of the resource or of one above it. -/
  covered : ∀ x ∈ Uri.variableNames r.uri, ∃ a ∈ above ++ [r], ∃ p ∈ a.uriParameters, p.name = x
  /-- The parameters of the resource itself are those it declares, in order and without the marks
  of their names, and then its other variables, each at its first occurrence. -/
  parameters : ∃ declared implied, r.uriParameters = declared ++ implied ∧
    Parameter.declared (m.get "uriParameters") = .ok declared ∧
    (m.get "uriParameters").entries.mapM (fun e => (Facet.optionalName e.1).map (·.1)) =
      .ok (declared.map (·.name)) ∧
    implied.map (·.name) = ((Uri.variableNames r.relativeUri).filter
      fun x => !(declared.map (·.name)).contains x).eraseDups ∧
    ∀ p ∈ implied, p.required = true ∧ p.types = ["string"]

theorem DeclaredBy.uriCovered {root : Mapping} {above : List Resource}
    (h : DeclaredBy scope "" root above r m) : r.UriCovered above m := by
  have joined : Uri.variableNames r.uri =
      (above ++ [r]).flatMap fun a => Uri.variableNames a.relativeUri := h.variableNames_uri
  refine { uri := by rw [h.uri_eq, String.empty_append], joined, covered := ?_, parameters := ?_ }
  · intro x mem
    rw [joined] at mem
    obtain ⟨a, way, own⟩ := List.mem_flatMap.mp mem
    obtain ⟨_, _, _, _, expansion⟩ := h.expansions a way
    exact ⟨a, way, List.mem_map.mp (expansion.mem_names_uriParameters own)⟩
  · obtain ⟨_, _, _, expansion⟩ := h.expansion
    obtain ⟨declared, came, all⟩ := expansion.exists_parameters
    refine ⟨declared, _, all, came, Parameter.names_declared came, ?_, fun p mem => ?_⟩
    · rw [List.map_map, ← undeclared_eq_eraseDups]
      exact List.map_id _
    · obtain ⟨x, -, rfl⟩ := List.mem_map.mp mem
      exact ⟨rfl, rfl⟩

end Resource

/-! ## Definitions -/

/-- However deep a resource of a definition lies and whichever types bring it, its URI is made of
the relative URIs on the way to it, no variable is made or lost at a joint, every variable is a
parameter on the way, and the resource has the parameters that it declares and one for each further
variable of its own. -/
theorem uriCovered_of_reached {files : Files.Entry} {base : Files.Path} {root : Mapping} {api : Api}
    {above : List Resource} {r : Resource} (h : (Api.ofRoot files base root).outcome = .ok api)
    (way : Resource.Reached api.resources above r) :
    ∃ scope m, Scope.ofRoot root (api.libraries.map fun l => (l.1, l.2.raw)) = .ok scope ∧
      Resource.DeclaredBy scope "" root above r m ∧ r.UriCovered above m := by
  obtain ⟨used, scope, uri, declared, bare, parts, rfl⟩ := Api.ofRoot_eq_ok_iff.mp h
  have resources := parts.resources
  rw [Api.resourcesOf, Traced.outcome_mapList] at resources
  obtain ⟨m, declaredBy⟩ := Resource.exists_declaredBy way resources
  have named : Scope.ofRoot root ((bare.filled declared used).libraries.map
      fun l => (l.1, l.2.raw)) = .ok scope := by
    rw [Api.filled, List.map_map]
    exact parts.scope
  obtain ⟨mediaType, -, rfl⟩ := map_eq_ok.mp parts.scope
  exact ⟨_, m, named, declaredBy, declaredBy.uriCovered⟩

/-- A resource with a brace that is never closed, of a type that brings the resource below it. -/
def shelfRoot : Mapping :=
  [("resourceTypes", .record [("collection", .record [
      ("uriParameters", .record [("shelf?", .null)]),
      ("/\x7bitem\x7d.\x7bformat\x7d/\x7bitem\x7d", .record [
        ("uriParameters", .record [("format", .null)])])])]),
    ("/shelves\x7bshelf\x7d\x7bopen", .record [("type", .text "collection")])].map
      fun e => (.text e.1, e.2)

theorem uriCovered_shelfRoot :
    ∃ api a r, (Api.ofRoot (.dir []) ⟨[]⟩ shelfRoot).outcome = .ok api ∧
      Resource.Reached api.resources [a] r ∧
      (∃ scope m, Scope.ofRoot shelfRoot (api.libraries.map fun l => (l.1, l.2.raw)) = .ok scope ∧
        Resource.DeclaredBy scope "" shelfRoot [a] r m ∧ r.UriCovered [a] m) ∧
      Uri.variableNames r.uri = ["shelf", "item", "format", "item"] ∧
      a.uriParameters.map (·.name) = ["shelf"] ∧
      r.uriParameters.map (·.name) = ["format", "item"] := by
  have shown : (Api.ofRoot (.dir []) ⟨[]⟩ shelfRoot).outcome.toOption.map (fun api =>
      api.resources.map fun a => (a.uriParameters.map (·.name), a.children.map fun r =>
        (Uri.variableNames r.uri, r.uriParameters.map (·.name)))) =
      some [(["shelf"], [(["shelf", "item", "format", "item"], ["format", "item"])])] := by
    decide +kernel
  obtain ⟨api, came, resources⟩ := exists_ok_of_toOption shown
  obtain ⟨a, top, parts⟩ := List.map_eq_singleton_iff.mp resources
  obtain ⟨names, children⟩ := Prod.mk.inj parts
  obtain ⟨r, child, parts⟩ := List.map_eq_singleton_iff.mp children
  obtain ⟨uri, parameters⟩ := Prod.mk.inj parts
  have way : Resource.Reached api.resources [a] r :=
    .child (top ▸ List.mem_singleton_self a) (.top (child ▸ List.mem_singleton_self r))
  exact ⟨api, a, r, came, way, uriCovered_of_reached came way, uri, names, parameters⟩

end RamlDocs
