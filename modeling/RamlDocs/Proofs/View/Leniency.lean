import RamlDocs.Proofs.Definition.Assembly
import RamlDocs.Proofs.Definition.Leniency
import RamlDocs.Proofs.Template.BaseUri
import RamlDocs.View.Document

/-!
# Leniency

An ordinary root is read and shown whatever shapes its facets have (`document_of_ordinary`). What
could still be refused are the libraries that it uses, resources without end that its resource types
bring, and the authority of its base URI; the hypotheses are about these three.
-/

namespace RamlDocs

variable {root : Mapping} {v : Value}

/-! ## The frame -/

theorem ordinary_gatheredEntries (h : v.Ordinary) : (gatheredEntries v).Ordinary := by
  cases v with
  | list vs =>
    have gathered : ∀ (vs : List Value) (m : Mapping), (∀ w ∈ vs, w.Ordinary) → m.Ordinary →
        Mapping.Ordinary (vs.foldl (fun m v => Mapping.overlay m v.entries) m) := by
      intro vs
      induction vs with
      | nil => exact fun m _ hm => hm
      | cons w vs ih =>
        intro m all hm
        obtain ⟨own, rest⟩ := List.forall_mem_cons.mp all
        exact ih _ rest (entriesWithin_overlay hm (Value.within_entries own))
    exact gathered vs [] (itemsWithin_iff.mp h) rfl
  | _ => exact Value.within_entries h

theorem SecurityScheme.returns_all (h : v.Ordinary) : Returns (SecurityScheme.all v) := by
  exact returns_mapM_entries (ordinary_gatheredEntries h) fun _ _ key _ =>
    (Key.returns_asText key).map _

theorem DocumentationPage.returns_all (h : v.Ordinary) : Returns (DocumentationPage.all v) := by
  refine Returns.mapM fun item mem => ?_
  have page := Value.within_entries (Value.within_of_mem_items h (List.mem_filter.mp mem).1)
  refine (Facet.returns_text? (Value.within_get page "title")).bind fun title _ => ?_
  refine (Facet.returns_text? (Value.within_get page "content")).bind fun content _ => ?_
  exact ⟨_, rfl, trivial⟩

theorem Facet.returns_protocols (h : v.Ordinary) {baseUri : Option String}
    (uri : ∀ s, baseUri = some s → ∀ c ∈ s.toList, BaseUri.isUnbracketed c = true) :
    Returns (Facet.protocols v baseUri) := by
  have scheme : Returns (BaseUri.scheme (baseUri.getD "")) := by
    cases baseUri with
    | none => exact ⟨_, rfl, trivial⟩
    | some s => exact BaseUri.returns_scheme (uri s rfl)
  unfold Facet.protocols
  split
  · exact ⟨_, rfl, trivial⟩
  next vs =>
    exact Returns.mapM fun w mem => (Value.returns_asText (itemsWithin_iff.mp h w mem)).map _
  · obtain ⟨s, known, -⟩ := scheme
    rw [known]
    exact ⟨_, rfl, trivial⟩

theorem Api.returns_frame (h : root.Ordinary) (baseUri : Option String)
    (uri : ∀ s, baseUri = some s → ∀ c ∈ s.toList, BaseUri.isUnbracketed c = true) :
    Returns (Api.frame root baseUri) := by
  have facet := fun name => Facet.returns_text? (Value.within_get h name)
  refine (facet "title").bind fun title _ => ?_
  refine (facet "version").bind fun version _ => ?_
  refine (Parameter.returns_all (Value.within_get h "baseUriParameters") _).bind fun _ _ => ?_
  refine (Facet.returns_protocols (Value.within_get h "protocols") uri).bind fun _ _ => ?_
  refine (facet "description").bind fun description _ => ?_
  refine (DocumentationPage.returns_all (Value.within_get h "documentation")).bind fun _ _ => ?_
  refine (Facet.returns_securedBy (Value.within_get h "securedBy")).bind fun _ _ => ?_
  refine (SecurityScheme.returns_all (Value.within_get h "securitySchemes")).bind fun _ _ => ?_
  refine (TypeDecl.returns_all h).bind fun types _ => ?_
  exact ⟨_, rfl, trivial⟩

/-! ## The definition -/

theorem Api.returns_resourcesOf {scope : Scope} (hs : scope.Ordinary)
    (flat : ResourceType.Flat scope.root) : Returns (Api.resourcesOf scope).outcome := by
  refine Traced.returns_mapList fun declared mem => ?_
  have held := (Resource.mem_childrenOf_iff.mp mem).2
  refine Resource.returns_ofDeclaration hs flat "" ((entriesWithin_iff.mp hs.root).2 _ held).2 ?_
  have inside := Value.depth_lt_of_mem_entries (v := .map scope.root) held
  exact Nat.lt_of_lt_of_le inside (Nat.le_add_right _ _)

theorem Api.exists_parts (files : Files.Entry) (base : Files.Path) (h : root.Ordinary)
    (alone : root.has "uses" = false) (flat : ResourceType.Flat root)
    (uri : ∀ s, Facet.text? (root.get "baseUri") = .ok (some s) →
      ∀ c ∈ s.toList, BaseUri.isUnbracketed c = true) :
    ∃ names baseUri declared bare,
      Api.Parts files base root [] names baseUri declared bare := by
  obtain ⟨mediaType, media, -⟩ := Facet.returns_mediaType (Value.within_get h "mediaType")
  obtain ⟨baseUri, read, -⟩ := Facet.returns_text? (Value.within_get h "baseUri")
  have scope : Scope.Ordinary ⟨root, [], mediaType⟩ := ⟨h, rfl⟩
  obtain ⟨declared, resources, -⟩ := Api.returns_resourcesOf scope flat
  obtain ⟨bare, frame, -⟩ := Api.returns_frame h baseUri fun s same =>
    uri s (read.trans (congrArg Except.ok same))
  refine ⟨⟨root, [], mediaType⟩, baseUri, declared, bare, ?_, ?_, read, resources, frame⟩
  · unfold Api.librariesOf
    rw [Mapping.get_of_has_eq_false alone]
    rfl
  · unfold Scope.ofRoot
    rw [media]
    rfl

/-- An ordinary root without libraries, whose resource types bring no resources and whose base URI
is of ASCII without brackets, is plain, makes a definition and has a view under all settings. -/
theorem document_of_ordinary (files : Files.Entry) (base : Files.Path) (h : root.Ordinary)
    (alone : root.has "uses" = false) (flat : ResourceType.Flat root)
    (uri : ∀ s, Facet.text? (root.get "baseUri") = .ok (some s) →
      ∀ c ∈ s.toList, BaseUri.isUnbracketed c = true) :
    root.plain = .ok root ∧ ∃ api, (Api.ofRoot files base root).outcome = .ok api ∧
      ∀ settings, ∃ d, (api.document settings).outcome = .ok d := by
  obtain ⟨names, baseUri, declared, bare, parts⟩ := Api.exists_parts files base h alone flat uri
  refine ⟨Mapping.plain_of_within h, bare.filled declared [], ?_, fun settings => ?_⟩
  · exact Api.ofRoot_eq_ok_iff.mpr ⟨[], names, baseUri, declared, bare, parts, rfl⟩
  · have shown : (bare.filled declared []).root = .ok root := by
      have raw : bare.raw = some root := Api.raw_frame parts.frame
      have json : Json.obstacle? false (.map root) = none := obstacle?_of_within false h
      simp only [Api.root, Api.filled, raw, json]
    exact ⟨_, Traced.outcome_bind_eq_ok.mpr ⟨root, shown, rfl⟩⟩

/-- A root in which hardly anything has the shape that is expected. -/
def misshapenRoot : Mapping :=
  [("title", .list [.text "Odd", .int 1]),
    ("version", .float ⟨0x3ff8000000000000⟩),
    ("baseUri", .record [("value", .text "http://api")]),
    ("mediaType", .list [.record []]),
    ("protocols", .list [.null, .bool true]),
    ("documentation", .text "none"),
    ("securedBy", .list [.null, .record [], .int 7]),
    ("securitySchemes", .list [.record [("key", .text "x")], .int 3]),
    ("types", .record [("Item", .list [.int 1]), ("Broken", .text "\x7b"), ("Self", .text "Self")]),
    ("traits", .list []),
    ("resourceTypes", .record [("item", .record [("get?", .int 1), ("type", .text "item")])]),
    ("/items", .record [
      ("type", .record [("item", .int 1)]),
      ("is", .record [("paged", .null)]),
      ("get", .list [.text "list"]),
      ("post", .record [("body", .record [("type", .text "\x7b"), ("examples", .record [
          ("one", .record [("value", .null), ("strict", .text "no")])])]),
        ("responses", .record [("200", .text "fine")]),
        ("queryParameters", .record [("page?", .record [("minLength", .text "many")])])]),
      ("/\x7bid\x7d", .int 5)])].map
      fun e => (.text e.1, e.2)

theorem document_of_misshapenRoot :
    misshapenRoot.plain = .ok misshapenRoot ∧
      ∃ api, (Api.ofRoot (.dir []) ⟨[]⟩ misshapenRoot).outcome = .ok api ∧
        ∃ d, (api.document {}).outcome = .ok d := by
  have ordinary_ : misshapenRoot.Ordinary := by decide +kernel
  have alone : misshapenRoot.has "uses" = false := by decide +kernel
  have flat : ResourceType.Flat misshapenRoot := by
    unfold ResourceType.Flat
    decide +kernel
  have read : Facet.text? (misshapenRoot.get "baseUri") = .ok (some "http://api") := rfl
  have unbracketed : "http://api".toList.all BaseUri.isUnbracketed = true := by decide +kernel
  obtain ⟨plain, api, built, shown⟩ := document_of_ordinary (.dir []) ⟨[]⟩ ordinary_ alone flat
    fun s same => by
      rw [read] at same
      cases same
      exact List.all_eq_true.mp unbracketed
  exact ⟨plain, api, built, shown {}⟩

end RamlDocs
