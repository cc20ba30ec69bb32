import RamlDocs.Definition.Source
import RamlDocs.Proofs.Outcome

/-!
# How a definition is put together

A definition comes out of a root exactly if all its parts do: the libraries that the root uses, the
scope they make with it, the resources that are expanded in that scope, and the frame around them
(`Api.ofRoot_eq_ok_iff`).
-/

namespace RamlDocs

/-- The parts of a definition with the given root, before the resources are put into the frame. -/
structure Api.Parts (files : Files.Entry) (base : Files.Path) (root : Mapping)
    (used : List Library) (names : Scope) (uri : Option String) (declared : List Resource)
    (bare : Api) : Prop where
  libraries : Api.librariesOf files base root = .ok used
  scope : Scope.ofRoot root (used.map fun l => (l.name, l.raw)) = .ok names
  baseUri : Facet.text? (root.get "baseUri") = .ok uri
  resources : (Api.resourcesOf names).outcome = .ok declared
  frame : Api.frame root uri = .ok bare

/-- A frame with resources and libraries in their place. -/
def Api.filled (bare : Api) (declared : List Resource) (used : List Library) : Api :=
  { bare with resources := declared, libraries := used.map fun l => (l.name, l) }

variable {files : Files.Entry} {base : Files.Path} {root : Mapping} {api : Api}

theorem Api.ofRoot_eq_ok_iff :
    (Api.ofRoot files base root).outcome = .ok api ↔
      ∃ used names uri declared bare,
        Api.Parts files base root used names uri declared bare ∧
          api = bare.filled declared used := by
  constructor
  · intro h
    obtain ⟨used, libraries, h⟩ := Traced.outcome_bind_eq_ok.mp h
    obtain ⟨names, scope, h⟩ := Traced.outcome_bind_eq_ok.mp h
    obtain ⟨uri, baseUri, h⟩ := Traced.outcome_bind_eq_ok.mp h
    obtain ⟨declared, resources, h⟩ := Traced.outcome_bind_eq_ok.mp h
    obtain ⟨bare, frame, h⟩ := Traced.outcome_bind_eq_ok.mp h
    cases h
    exact ⟨used, names, uri, declared, bare, ⟨libraries, scope, baseUri, resources, frame⟩, rfl⟩
  · rintro ⟨used, names, uri, declared, bare, parts, rfl⟩
    refine Traced.outcome_bind_eq_ok.mpr ⟨used, parts.libraries, ?_⟩
    refine Traced.outcome_bind_eq_ok.mpr ⟨names, parts.scope, ?_⟩
    refine Traced.outcome_bind_eq_ok.mpr ⟨uri, parts.baseUri, ?_⟩
    refine Traced.outcome_bind_eq_ok.mpr ⟨declared, parts.resources, ?_⟩
    exact Traced.outcome_bind_eq_ok.mpr ⟨bare, parts.frame, rfl⟩

/-- The scope of a definition is told by its root and its libraries. -/
theorem Api.Parts.scope_filled {used : List Library} {names : Scope} {uri : Option String}
    {declared : List Resource} {bare : Api}
    (parts : Api.Parts files base root used names uri declared bare) :
    Scope.ofRoot root ((bare.filled declared used).libraries.map fun l => (l.1, l.2.raw)) =
      .ok names := by
  rw [Api.filled, List.map_map]
  exact parts.scope

/-- What the parts of a frame that others are told by are read from. -/
structure Api.Framed (root : Mapping) (uri : Option String) (bare : Api) : Prop where
  version : Facet.text? (root.get "version") = .ok bare.version
  baseUri : bare.baseUri = uri
  baseUriParameters :
    Parameter.all (root.get "baseUriParameters") (Uri.variableNames (uri.getD "")) =
      .ok bare.baseUriParameters
  securedBy : Facet.securedBy (root.get "securedBy") = .ok bare.securedBy
  securitySchemes : SecurityScheme.all (root.get "securitySchemes") = .ok bare.securitySchemes
  types : TypeDecl.all root = .ok bare.types
  raw : bare.raw = some root

theorem Api.framed_of_frame {uri : Option String} {bare : Api}
    (h : Api.frame root uri = .ok bare) : Api.Framed root uri bare := by
  obtain ⟨_, _, h⟩ := bind_eq_ok.mp h
  obtain ⟨_, version, h⟩ := bind_eq_ok.mp h
  obtain ⟨_, baseUriParameters, h⟩ := bind_eq_ok.mp h
  obtain ⟨_, _, h⟩ := bind_eq_ok.mp h
  obtain ⟨_, _, h⟩ := bind_eq_ok.mp h
  obtain ⟨_, _, h⟩ := bind_eq_ok.mp h
  obtain ⟨_, securedBy, h⟩ := bind_eq_ok.mp h
  obtain ⟨_, securitySchemes, h⟩ := bind_eq_ok.mp h
  obtain ⟨_, types, h⟩ := bind_eq_ok.mp h
  cases h
  exact ⟨version, rfl, baseUriParameters, securedBy, securitySchemes, types, rfl⟩

/-- A frame keeps the root that it was read from, and has the types that the root declares. -/
theorem Api.types_and_raw_frame {uri : Option String} {bare : Api}
    (h : Api.frame root uri = .ok bare) :
    TypeDecl.all root = .ok bare.types ∧ bare.raw = some root :=
  ⟨(Api.framed_of_frame h).types, (Api.framed_of_frame h).raw⟩

theorem Api.raw_frame {uri : Option String} {bare : Api} (h : Api.frame root uri = .ok bare) :
    bare.raw = some root :=
  (Api.types_and_raw_frame h).2

/-- A library has the types that its own root declares. -/
theorem Library.types_of_read {e : Key × Value} {library : Library}
    (h : Library.read files base e = .ok library) :
    TypeDecl.all library.raw = .ok library.types := by
  obtain ⟨_, _, h⟩ := bind_eq_ok.mp h
  obtain ⟨root, _, h⟩ := bind_eq_ok.mp h
  obtain ⟨_, _, h⟩ := bind_eq_ok.mp h
  obtain ⟨types, declared, rfl⟩ := map_eq_ok.mp h
  exact declared

end RamlDocs
