import RamlDocs.Proofs.Definition.Assembly
import RamlDocs.Proofs.Definition.Resource
import RamlDocs.Proofs.View.Walk

/-!
# The outline of a definition

What a root says by its keys alone: which resources it declares, under which names, and which
methods they and the resources below them have. The outline is read off the mapping as written
(`Mapping.outline`) and knows nothing of traits, bodies or settings. Where no resource has a type,
the view of the definition has the same outline (`outline_of_document`).
-/

namespace RamlDocs

/-- A top-level resource in outline: its URI, its name, and the URI and method of each endpoint. -/
structure Outline where
  uri : String
  name : String
  endpoints : List (String × String)
  deriving DecidableEq, Repr

/-! ## As written -/

mutual

/-- The resource at the given URI as written, and then those below it, each with its URI. -/
def Value.declaredResources (uri : String) (v : Value) : List (String × Value) :=
  (uri, v) :: match v with
    | .map m => declaredBelow uri m
    | _ => []

/-- The resources that the keys of a mapping at the given URI declare, each followed by those below
it. -/
def declaredBelow (uri : String) : List (Key × Value) → List (String × Value)
  | [] => []
  | (k, v) :: m =>
    match resourceKey? k with
    | some relativeUri => v.declaredResources (uri ++ relativeUri) ++ declaredBelow uri m
    | none => declaredBelow uri m

end

theorem declaredBelow_eq_flatMap (uri : String) (m : Mapping) :
    declaredBelow uri m =
      (Resource.childrenOf m).flatMap fun c => c.2.declaredResources (uri ++ c.1) := by
  induction m with
  | nil => rfl
  | cons e m ih =>
    obtain ⟨k, v⟩ := e
    unfold Resource.childrenOf at ih ⊢
    rw [declaredBelow]
    cases hk : resourceKey? k with
    | none => simpa [hk] using ih
    | some relativeUri => simpa [hk] using ih

/-- A value that is no mapping declares what an empty one does. -/
theorem Value.declaredResources_eq (uri : String) (v : Value) :
    v.declaredResources uri = (uri, v) ::
      (Resource.childrenOf v.entries).flatMap fun c => c.2.declaredResources (uri ++ c.1) := by
  rw [← declaredBelow_eq_flatMap]
  cases v with
  | map m => rw [Value.declaredResources, Value.entries]
  | _ => rfl

/-- The methods that a resource as written and those below it declare, each with its URI. -/
def Value.declaredMethods (uri : String) (v : Value) : List (String × String) :=
  (v.declaredResources uri).flatMap fun e => e.2.entries.methodNames.map fun name => (e.1, name)

theorem Value.declaredMethods_eq (uri : String) (v : Value) :
    v.declaredMethods uri = v.entries.methodNames.map (fun name => (uri, name)) ++
      (Resource.childrenOf v.entries).flatMap fun c => c.2.declaredMethods (uri ++ c.1) := by
  unfold Value.declaredMethods
  rw [Value.declaredResources_eq, List.flatMap_cons, List.flatMap_assoc]

/-- No resource that is declared has a type. -/
def Untyped (declared : List (String × Value)) : Prop :=
  ∀ e ∈ declared, e.2.entries.has "type" = false

instance (declared : List (String × Value)) : Decidable (Untyped declared) :=
  inferInstanceAs (Decidable (∀ e ∈ declared, e.2.entries.has "type" = false))

/-- The name under which a resource as written is shown: its display name unless that is missing or
empty, else its URI. -/
def Value.shownName (uri : String) (v : Value) : String :=
  match Facet.text? (v.entries.get "displayName") with
  | .ok (some s) => if s == "" then Text.capitalized (Text.withoutFirst '/' uri) else s
  | _ => Text.capitalized (Text.withoutFirst '/' uri)

/-- The outline of a resource as written. -/
def Value.outline (uri : String) (v : Value) : Outline :=
  ⟨uri, v.shownName uri, v.declaredMethods uri⟩

/-- The outlines of the resources that a root declares by its own keys, in order, the first of each
name. -/
def Mapping.outline (root : Mapping) : List Outline :=
  ((Resource.childrenOf root).map fun c => c.2.outline c.1).eraseDupsBy fun a b => a.name == b.name

/-! ## As expanded -/

/-- The methods on the walk through a resource as they are shown, each with its URI. -/
def Resource.shownMethods (r : Resource) : List (String × String) :=
  r.walk.map fun e => (e.1.uri, Text.lowercased e.2.name)

/-- The outline of a resource. -/
def Resource.outline (r : Resource) : Outline := ⟨r.uri, r.shownName, r.shownMethods⟩

theorem Resource.shownMethods_eq (r : Resource) :
    r.shownMethods = r.methods.map (fun m => (r.uri, Text.lowercased m.name)) ++
      r.children.flatMap Resource.shownMethods := by
  unfold Resource.shownMethods
  rw [Resource.walk_eq, List.map_append, List.map_map, List.map_flatMap]
  rfl

/-- The names of methods are in lower case already. -/
theorem lowercased_httpMethods : ∀ name ∈ httpMethods, Text.lowercased name = name := by
  decide

/-- The methods of a resource are shown under the keys of its mapping. -/
theorem Resource.shown_methodsOf {scope : Scope} {params : Template.Params} {m : Mapping}
    {methods : List Method} (h : (Resource.methodsOf scope params m).outcome = .ok methods)
    (uri : String) :
    methods.map (fun method => (uri, Text.lowercased method.name)) =
      m.methodNames.map fun name => (uri, name) := by
  have names := Resource.names_methodsOf h
  calc methods.map (fun method => (uri, Text.lowercased method.name))
      = (methods.map (·.name)).map fun name => (uri, Text.lowercased name) := by
        rw [List.map_map]
        rfl
    _ = m.methodNames.map fun name => (uri, Text.lowercased name) := by rw [names]
    _ = m.methodNames.map fun name => (uri, name) := by
      apply List.map_congr_left
      intro name mem
      rw [lowercased_httpMethods name (Mapping.mem_methodNames_iff.mp mem).1]

/-- Without types, the walk through a resource meets the methods of its declaration. -/
theorem Resource.shownMethods_of_ofDeclaration {scope : Scope} (depth : Nat) :
    ∀ {parentUri : String} {declared : String × Value} {r : Resource},
      Untyped (declared.2.declaredResources (parentUri ++ declared.1)) →
      (Resource.ofDeclaration scope parentUri depth declared).outcome = .ok r →
        r.shownMethods = declared.2.declaredMethods (parentUri ++ declared.1) := by
  induction depth with
  | zero =>
    intro parentUri declared r _ h
    cases h
  | succ depth ih =>
    intro parentUri declared r untyped h
    rw [Value.declaredResources_eq] at untyped
    obtain ⟨own, below⟩ := List.forall_mem_cons.mp untyped
    obtain ⟨_, m, hd, expansion⟩ := Resource.expansion_of_ofDeclaration h
    cases hd
    obtain rfl := ResourceType.apply_of_untyped own expansion.completed
    have inner : r.children.map Resource.shownMethods =
        (Resource.childrenOf declared.2.entries).map
          fun c => c.2.declaredMethods (parentUri ++ declared.1 ++ c.1) := by
      apply map_eq_of_mapM expansion.children
      intro c mem child hc
      exact ih (fun e he => below e (List.mem_flatMap_of_mem mem he)) hc
    rw [Resource.shownMethods_eq, Value.declaredMethods_eq,
      Resource.shown_methodsOf expansion.methods, expansion.uri, List.flatMap_def,
      List.flatMap_def, inner]

/-- Without types, a resource has the outline of its declaration. -/
theorem Resource.outline_of_ofDeclaration {scope : Scope} {depth : Nat} {parentUri : String}
    {declared : String × Value} {r : Resource}
    (untyped : Untyped (declared.2.declaredResources (parentUri ++ declared.1)))
    (h : (Resource.ofDeclaration scope parentUri depth declared).outcome = .ok r) :
    r.outline = declared.2.outline (parentUri ++ declared.1) := by
  have methods := Resource.shownMethods_of_ofDeclaration depth untyped h
  obtain ⟨below, m, _, expansion⟩ := Resource.expansion_of_ofDeclaration h
  rw [Value.declaredResources_eq] at untyped
  obtain rfl := ResourceType.apply_of_untyped (untyped _ List.mem_cons_self) expansion.completed
  have name : r.shownName = declared.2.shownName (parentUri ++ declared.1) := by
    unfold Resource.shownName Value.shownName
    rw [expansion.displayName, expansion.uri]
    cases r.displayName <;> rfl
  rw [Resource.outline, Value.outline, methods, name, expansion.uri]

/-! ## As shown -/

/-- The outline of a group of a view. -/
def ResourceGroup.outline (g : ResourceGroup) : Outline :=
  ⟨g.uri, g.name, g.endpoints.map fun e => (e.uri, e.method)⟩

/-- The outline of a view. -/
def Document.outline (d : Document) : List Outline := d.resources.map ResourceGroup.outline

theorem Resource.outline_group (registry : Registry) (settings : Settings) (r : Resource) :
    (r.group registry settings).value.outline = r.outline := by
  have endpoints : (r.endpoints registry settings).value.map (fun e => (e.uri, e.method)) =
      r.shownMethods := by
    rw [Resource.endpoints_eq_walk, Resource.shownMethods, List.map_map]
    rfl
  rw [Resource.outline, ← endpoints]
  rfl

/-- To drop repetitions and then apply `f` is to apply `f` and then drop them, where `f` keeps what
counts as one. -/
theorem map_eraseDupsBy {α β : Type} (f : α → β) (same : β → β → Bool) :
    ∀ as : List α, (as.eraseDupsBy fun a b => same (f a) (f b)).map f =
      (as.map f).eraseDupsBy same
  | [] => rfl
  | a :: as => by
    rw [List.eraseDupsBy_cons, List.map_cons, List.map_cons, List.eraseDupsBy_cons,
      List.filter_map, map_eraseDupsBy f same]
    rfl
termination_by as => as.length
decreasing_by exact Nat.lt_succ_of_le (List.length_filter_le _ _)

theorem Api.outline_document {api : Api} {settings : Settings} {d : Document}
    (h : (api.document settings).outcome = .ok d) :
    d.outline = (api.resources.map Resource.outline).eraseDupsBy fun a b => a.name == b.name := by
  rw [Document.outline, Api.resources_document h, List.map_map, ← map_eraseDupsBy]
  apply List.map_congr_left
  intro r _
  exact Resource.outline_group _ settings r

/-- The resources of a definition are expanded from what its root declares, one by one. -/
theorem Api.resources_of_ofRoot {files : Files.Entry} {base : Files.Path} {root : Mapping}
    {api : Api} (h : (Api.ofRoot files base root).outcome = .ok api) :
    ∃ scope depth, (Resource.childrenOf root).mapM
      (fun c => (Resource.ofDeclaration scope "" depth c).outcome) = .ok api.resources := by
  obtain ⟨used, scope, uri, declared, bare, parts, rfl⟩ := Api.ofRoot_eq_ok_iff.mp h
  obtain ⟨mediaType, _, rfl⟩ := map_eq_ok.mp parts.scope
  have resources := parts.resources
  rw [Api.resourcesOf, Traced.outcome_mapList] at resources
  exact ⟨_, _, resources⟩

/-- Where no resource has a type, the view of a definition has the outline of its root: the
resources in order, the first of each name, with the methods of their trees as a walk from the root
meets them. No trait adds, drops or moves an endpoint. -/
theorem outline_of_document {files : Files.Entry} {base : Files.Path} {root : Mapping}
    {settings : Settings} {d : Document} (untyped : Untyped (declaredBelow "" root))
    (h : (Api.ofRoot files base root >>= fun api => api.document settings).outcome = .ok d) :
    d.outline = root.outline := by
  obtain ⟨api, loaded, shown⟩ := Traced.outcome_bind_eq_ok.mp h
  obtain ⟨scope, depth, expanded⟩ := Api.resources_of_ofRoot loaded
  rw [declaredBelow_eq_flatMap] at untyped
  have agree : api.resources.map Resource.outline =
      (Resource.childrenOf root).map fun c => c.2.outline c.1 := by
    apply map_eq_of_mapM expanded
    intro c mem r hr
    have outline := Resource.outline_of_ofDeclaration
      (fun e he => untyped e (List.mem_flatMap_of_mem mem he)) hr
    rwa [String.empty_append] at outline
  rw [Api.outline_document shown, agree, Mapping.outline]

/-- Two resources of one name, the first with a trait and a resource below it, and one with nothing
declared. -/
def itemsRoot : Mapping :=
  [("traits", .record [("paged", .record [("description", .text "page by page")])]),
    ("/items", .record [
      ("is", .list [.text "paged"]),
      ("/\x7bid\x7d", .record [("delete", .null), ("get", .null)]),
      ("get", .null)]),
    ("/things", .record [("displayName", .text "Items"), ("put", .null)]),
    ("/status", .null)].map fun e => (.text e.1, e.2)

theorem outline_itemsRoot :
    Untyped (declaredBelow "" itemsRoot) ∧
      ∃ d, (Api.ofRoot (.dir []) ⟨[]⟩ itemsRoot >>= fun api => api.document {}).outcome = .ok d ∧
        d.outline = [
          ⟨"/items", "Items",
            [("/items", "get"), ("/items/\x7bid\x7d", "delete"), ("/items/\x7bid\x7d", "get")]⟩,
          ⟨"/status", "Status", []⟩] := by
  have untyped : Untyped (declaredBelow "" itemsRoot) := by decide +kernel
  have returns : (Api.ofRoot (.dir []) ⟨[]⟩ itemsRoot >>=
      fun api => api.document {}).outcome.toOption.isSome = true := by
    decide +kernel
  refine ⟨untyped, ?_⟩
  cases h : (Api.ofRoot (.dir []) ⟨[]⟩ itemsRoot >>= fun api => api.document {}).outcome with
  | error f =>
    rw [h] at returns
    cases returns
  | ok d => exact ⟨d, rfl, (outline_of_document untyped h).trans (by decide +kernel)⟩

end RamlDocs
