import RamlDocs.Proofs.Definition.RawNames
import RamlDocs.Proofs.View.Walk

/-!
# Names of shown declarations

A view shows security schemes and base URI parameters by their raw mappings alone, so what is called
their name there is what the raw mapping has under `name`. It is the name of the part unless the
declaration has a key `name` of its own (`Api.namesShown_of_ofRoot`): a scheme `oauth` that declares
`name: other` is shown as `other`, and so is an API that it secures.
-/

namespace RamlDocs

/-- What the raw mappings of a definition with the given root, and of its views, say of names. -/
structure Api.NamesShown (root : Mapping) (api : Api) : Prop where
  /-- Every part shows its name or what its declaration has in the place of it. -/
  parts : ∃ scope, Scope.ofRoot root (api.libraries.map fun l => (l.1, l.2.raw)) = .ok scope ∧
    ∀ part ∈ api.writtenParts, ∃ decl, part.DeclaredBy scope decl ∧
      ShowsName decl part.name part.raw
  /-- A view lists the security schemes in the order of their declarations. -/
  schemes : ∀ settings d, (api.document settings).outcome = .ok d →
    List.Forall₂ (fun e shown => ∃ name, e.1.asText = .ok name ∧ ShowsName e.2.entries name shown)
      (gatheredEntries (root.get "securitySchemes")) d.securitySchemes
  /-- The scheme that secures the API is declared under the first name that the root refers to. -/
  securing : ∀ settings d, (api.document settings).outcome = .ok d → d.securedBy ≠ [] →
    ∃ references name e, Facet.securedBy (root.get "securedBy") = .ok references ∧
      firstScheme? references = some name ∧
      e ∈ gatheredEntries (root.get "securitySchemes") ∧ e.1.asText = .ok name ∧
      ShowsName e.2.entries name d.securedBy

/-- A scheme is named by its key and shows that name, unless it declares another one. -/
theorem SecurityScheme.showsName_of_ofDeclaration {k : Key} {v : Value} {s : SecurityScheme}
    (h : ofDeclaration k v = .ok s) : k.asText = .ok s.name ∧ ShowsName v.entries s.name s.raw := by
  obtain ⟨name, written, rfl⟩ := map_eq_ok.mp h
  exact ⟨written, showsName_overlay _ name⟩

namespace Api

variable {files : Files.Entry} {base : Files.Path} {root : Mapping} {api : Api}

/-- What secures an API is shown by the raw mapping of the scheme of that name. -/
theorem exists_of_securingScheme (some_ : api.securingScheme ≠ []) :
    ∃ name, firstScheme? api.securedBy = some name ∧
      ∃ s ∈ api.securitySchemes, s.name = name ∧ s.raw = api.securingScheme := by
  unfold securingScheme at some_ ⊢
  cases first : firstScheme? api.securedBy with
  | none =>
    rw [first] at some_
    exact absurd rfl some_
  | some name =>
    rw [first] at some_
    dsimp only at some_ ⊢
    cases found : api.securitySchemes.find? (·.name == name) with
    | none =>
      rw [found] at some_
      exact absurd rfl some_
    | some s =>
      have same := List.find?_some found
      exact ⟨name, rfl, s, List.mem_of_find?_eq_some found, beq_iff_eq.mp same, rfl⟩

theorem namesShown_of_ofRoot (came : (ofRoot files base root).outcome = .ok api) :
    NamesShown root api := by
  obtain ⟨scope, named, declared⟩ := declaredBy_of_mem came
  obtain ⟨used, _, uri, resources, bare, parts, rfl⟩ := ofRoot_eq_ok_iff.mp came
  have framed := framed_of_frame parts.frame
  have schemes := mapM_eq_ok_iff.mp framed.securitySchemes
  refine { parts := ⟨scope, named, ?_⟩, schemes := ?_, securing := ?_ }
  · intro part mem
    obtain ⟨decl, own⟩ := declared part mem
    exact ⟨decl, own, own.showsName⟩
  · intro settings d shown
    obtain ⟨_, _, rfl⟩ := document_eq_ok shown
    refine List.forall₂_map_right_iff.mpr (schemes.imp fun e s came => ?_)
    exact ⟨s.name, SecurityScheme.showsName_of_ofDeclaration came⟩
  · intro settings d shown some_
    obtain ⟨_, _, rfl⟩ := document_eq_ok shown
    obtain ⟨name, first, s, mem, rfl, raw⟩ := exists_of_securingScheme some_
    obtain ⟨e, entry, came⟩ := exists_of_mem_forall₂ schemes mem
    obtain ⟨written, showsName⟩ := SecurityScheme.showsName_of_ofDeclaration came
    rw [raw] at showsName
    exact ⟨_, s.name, e, framed.securedBy, first, entry, written, showsName⟩

/-- Parts of every kind: parameters of the base URI, of a resource and, by a trait, of a method, a
body of a response with its properties, properties of a type and of one of a library, and two
security schemes. Three of the declarations have a key `name`. -/
def accountRoot : Mapping :=
  [("uses", .record [("shared", .text "shared.raml")]),
    ("baseUri", .text "https://\x7bregion\x7d.example/\x7btenant\x7d"),
    ("baseUriParameters", .record [("region?", .record [("name", .text "Region")])]),
    ("securitySchemes", .record [("oauth", .record [("type", .text "OAuth 2.0")]),
      ("basic", .record [("name", .text "Basic")])]),
    ("securedBy", .list [.null, .text "basic"]),
    ("traits", .record [("paged", .record [("queryParameters", .record [("page?", .null)])])]),
    ("types", .record [("Account", .record [("properties", .record [("number", .null)])])]),
    ("/accounts", .record [("/\x7bid\x7d", .record [("is", .text "paged"), ("get", .record [
      ("responses", .record [("200", .record [("body", .record [("application/json", .record [
        ("properties", .record [("owner", .record [("name", .text "Owner")])])])])])])])])])].map
      fun e => (.text e.1, e.2)

def accountFiles : Files.Entry :=
  .dir [("shared.raml", .file
    ("types:\n  Money:\n    properties:\n      sum: number\n".toList.map Char.toNat))]

theorem namesShown_accountRoot :
    ∃ api d, (ofRoot accountFiles ⟨[]⟩ accountRoot).outcome = .ok api ∧
      (api.document {}).outcome = .ok d ∧ NamesShown accountRoot api ∧
      api.writtenParts.map (fun part => (part.name, (part.raw.get "name").text?)) =
        [("region", some "Region"), ("tenant", some "tenant"), ("oauth", some "oauth"),
          ("basic", some "Basic"), ("id", some "id"), ("page", some "page"),
          ("application/json", some "application/json"), ("owner", some "Owner"),
          ("number", some "number"), ("sum", some "sum")] ∧
      (d.securedBy.get "name").text? = some "Basic" := by
  have shown : (ofRoot accountFiles ⟨[]⟩ accountRoot).outcome.toOption.map (fun api =>
      (api.writtenParts.map (fun part => (part.name, (part.raw.get "name").text?)),
        (api.document {}).outcome.toOption.map fun d => (d.securedBy.get "name").text?)) =
      some ([("region", some "Region"), ("tenant", some "tenant"), ("oauth", some "oauth"),
          ("basic", some "Basic"), ("id", some "id"), ("page", some "page"),
          ("application/json", some "application/json"), ("owner", some "Owner"),
          ("number", some "number"), ("sum", some "sum")], some (some "Basic")) := by
    decide +kernel
  obtain ⟨api, came, facts⟩ := exists_ok_of_toOption shown
  obtain ⟨names, viewed⟩ := Prod.mk.inj facts
  obtain ⟨d, document, securing⟩ := exists_ok_of_toOption viewed
  exact ⟨api, d, came, document, namesShown_of_ofRoot came, names, securing⟩

/-- A scheme that declares a name of its own. -/
def renamedRoot : Mapping :=
  [("title", .text "T"),
    ("securitySchemes", .record [("oauth", .record [("name", .text "other")])])].map
      fun e => (.text e.1, e.2)

/-- The scheme `oauth` is shown as `other`. -/
theorem misnamed_renamedRoot :
    ∃ api, (ofRoot (.dir []) ⟨[]⟩ renamedRoot).outcome = .ok api ∧
      ∃ part ∈ api.writtenParts, part.name = "oauth" ∧
        part.raw.get? "name" ≠ some (.text part.name) := by
  have shown : (ofRoot (.dir []) ⟨[]⟩ renamedRoot).outcome.toOption.map (fun api =>
      api.writtenParts.map fun part => (part.name, (part.raw.get? "name").bind Value.text?)) =
      some [("oauth", some "other")] := by
    decide +kernel
  obtain ⟨api, came, parts⟩ := exists_ok_of_toOption shown
  obtain ⟨part, listed, facts⟩ := List.map_eq_singleton_iff.mp parts
  obtain ⟨name, raw⟩ := Prod.mk.inj facts
  refine ⟨api, came, part, listed ▸ List.mem_singleton_self part, name, ?_⟩
  intro same
  rw [same, name] at raw
  exact absurd raw (by decide)

end Api

end RamlDocs
