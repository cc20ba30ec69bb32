import RamlDocs.Proofs.Definition.MediaTypes
import RamlDocs.Proofs.Definition.MethodParts
import RamlDocs.Proofs.Definition.UriPath

/-!
# Names in raw mappings

Parameters, properties, bodies and security schemes keep the mapping that they were declared with,
and under the key `name` it shows their name. The name is put below the declaration, though, so a
declaration that has a key `name` itself shows the value of that instead
(`WrittenPart.DeclaredBy.showsName`). Apart from this the raw mapping of every part of a definition
tells its name, at any depth of resources, responses, bodies and types, those of libraries included
(`Api.declaredBy_of_mem`).

`Scope.Holds` says which mappings a definition reads facets from, and `WrittenPart.DeclaredBy` which
of them declares a part. A variable of a URI that is not declared has no declaration.
-/

namespace RamlDocs

/-! ## Parts that keep what was written -/

/-- A part of a definition with a raw mapping. -/
inductive WrittenPart where
  | parameter (p : Parameter)
  | property (p : Property)
  | body (b : Body)
  | scheme (s : SecurityScheme)

namespace WrittenPart

/-- What a part is called; a body has the name of its media type. -/
def name : WrittenPart → String
  | parameter p => p.name
  | property p => p.name
  | body b => b.mediaType
  | scheme s => s.name

/-- The mapping that a part shows of itself. -/
def raw : WrittenPart → Mapping
  | parameter p => p.raw
  | property p => p.raw
  | body b => b.raw
  | scheme s => s.raw

end WrittenPart

def Body.writtenParts (b : Body) : List WrittenPart := .body b :: b.properties.map .property

def Method.writtenParts (m : Method) : List WrittenPart :=
  m.queryParameters.map .parameter ++
    (m.bodies ++ m.responses.flatMap (·.bodies)).flatMap Body.writtenParts

/-- The parts of a resource itself, without those of the resources below it. -/
def Resource.writtenParts (r : Resource) : List WrittenPart :=
  r.uriParameters.map .parameter ++ r.methods.flatMap Method.writtenParts

/-- All parts of a definition that have raw mappings. -/
def Api.writtenParts (api : Api) : List WrittenPart :=
  api.baseUriParameters.map .parameter ++ api.securitySchemes.map .scheme ++
    (Resource.subtrees api.resources).flatMap Resource.writtenParts ++
    ((api.types ++ api.libraries.flatMap (·.2.types)).flatMap (·.properties)).map .property

/-! ## Declarations -/

/-- What a mapping describes. -/
inductive Described where
  | root
  | resource
  | method
  | response
  | body
  | type

/-- The facet in which a mapping declares parameters. -/
def Described.parameterFacet? : Described → Option String
  | .root => some "baseUriParameters"
  | .resource => some "uriParameters"
  | .method => some "queryParameters"
  | _ => none

/-- Whether a mapping declares bodies in its facet `body`. -/
def Described.hasBodies : Described → Bool
  | .method | .response => true
  | _ => false

/-- Whether a mapping declares properties in its facet `properties`. -/
def Described.hasProperties : Described → Bool
  | .body | .type => true
  | _ => false

/-- A body facet declares a body of a media type by `v`: as one of its entries, or as a whole. -/
def Body.DeclaredIn (scope : Scope) (facet : Value) (mediaType : String) (v : Value) : Prop :=
  (v = facet ∧ mediaType = scope.mediaType) ∨ ∃ k, (k, v) ∈ facet.entries ∧ k.asText = .ok mediaType

/-- The mappings that a definition reads facets from. Resources are completed by their types,
methods by their traits, and bodies by the types that they declare in place. -/
inductive Scope.Holds (scope : Scope) : Described → Mapping → Prop
  | root : Holds scope .root scope.root
  | type {root : Mapping} {k : Key} {v : Value}
      (source : root ∈ scope.root :: scope.libraries.map (·.2))
      (declared : (k, v) ∈ TypeDecl.declarations root) :
      Holds scope .type (Facet.declaration v)
  | resource {above : List Resource} {r : Resource} {m : Mapping}
      (way : Resource.DeclaredBy scope "" scope.root above r m) : Holds scope .resource m
  | method {above : List Resource} {r : Resource} {m : Mapping} {traits : List TraitReference}
      {name : String} {v : Value} {sources : List Mapping}
      (way : Resource.DeclaredBy scope "" scope.root above r m)
      (shared : Facet.references (m.get "is") = .ok traits)
      (declared : (.text name, v) ∈ m) (known : name ∈ httpMethods)
      (made : Method.sources scope (Resource.params r.uri) traits name v = .ok sources) :
      Holds scope .method (Mapping.completed sources)
  | response {m : Mapping} {k : Key} {v : Value} (outer : Holds scope .method m)
      (declared : (k, v) ∈ (m.get "responses").entries) : Holds scope .response v.entries
  | body {described : Described} {m : Mapping} {mediaType : String} {v : Value}
      (outer : Holds scope described m) (bodied : described.hasBodies = true)
      (declared : Body.DeclaredIn scope (m.get "body") mediaType v) :
      Holds scope .body (Body.declared v)

/-- A part of a definition comes from a declaration, or it stands for a variable of a URI that is
not declared. -/
inductive WrittenPart.DeclaredBy (scope : Scope) : WrittenPart → Mapping → Prop
  | parameter {described : Described} {m : Mapping} {facet : String} {k : Key} {v : Value}
      {p : Parameter}
      (outer : scope.Holds described m) (named : described.parameterFacet? = some facet)
      (declared : (k, v) ∈ (m.get facet).entries) (read : Parameter.ofDeclaration k v = .ok p) :
      DeclaredBy scope (.parameter p) (Facet.declaration v)
  | baseVariable {uri : Option String} {x : String}
      (written : Facet.text? (scope.root.get "baseUri") = .ok uri)
      (mem : x ∈ Uri.variableNames (uri.getD "")) : DeclaredBy scope (.parameter (.implicit x)) []
  | uriVariable {above : List Resource} {r : Resource} {m : Mapping} {x : String}
      (way : Resource.DeclaredBy scope "" scope.root above r m)
      (mem : x ∈ Uri.variableNames r.relativeUri) : DeclaredBy scope (.parameter (.implicit x)) []
  | property {described : Described} {m : Mapping} {k : Key} {v : Value} {p : Property}
      (outer : scope.Holds described m) (typed : described.hasProperties = true)
      (declared : (k, v) ∈ (m.get "properties").entries)
      (read : Property.ofDeclaration k v = .ok p) :
      DeclaredBy scope (.property p) (Facet.declaration v)
  | body {described : Described} {m : Mapping} {mediaType : String} {v : Value} {b : Body}
      (outer : scope.Holds described m) (bodied : described.hasBodies = true)
      (declared : Body.DeclaredIn scope (m.get "body") mediaType v)
      (read : Body.ofDeclaration scope mediaType v = .ok b) :
      DeclaredBy scope (.body b) (Body.declared v)
  | scheme {k : Key} {v : Value} {s : SecurityScheme}
      (declared : (k, v) ∈ gatheredEntries (scope.root.get "securitySchemes"))
      (read : SecurityScheme.ofDeclaration k v = .ok s) :
      DeclaredBy scope (.scheme s) v.entries

/-! ## What the raw mapping shows -/

/-- A raw mapping made from a declaration shows a name, unless the declaration has a key `name`
itself: then it shows the value of that. -/
structure ShowsName (decl : Mapping) (name : String) (raw : Mapping) : Prop where
  own : decl.has "name" = false → raw.get? "name" = some (.text name)
  declared : decl.has "name" = true → ∃ v, (.text "name", v) ∈ decl ∧ raw.get? "name" = some v

/-- A key that is among the entries put over others finds one of them. -/
theorem Mapping.exists_of_overlay {m n : Mapping} {name : String} (has : n.has name = true) :
    ∃ v, (.text name, v) ∈ n ∧ (overlay m n).get? name = some v := by
  induction n generalizing m with
  | nil => cases has
  | cons e n ih =>
    by_cases later : Mapping.has n name = true
    · obtain ⟨v, mem, found⟩ := ih (m := m.put e.1 e.2) later
      exact ⟨v, List.mem_cons_of_mem _ mem, found⟩
    · -- the first entry is the last one with the key
      have absent : find? n (.text name) = none := by simpa [Mapping.has, get?] using later
      obtain ⟨k, v⟩ := e
      have same : k.same (.text name) = true := by
        by_contra other
        rw [Mapping.has, get?, find?_cons, if_neg other, absent] at has
        cases has
      obtain rfl := (Key.same_text_iff k name).mp same
      refine ⟨v, List.mem_cons_self, ?_⟩
      show find? (overlay (m.put (.text name) v) n) (.text name) = some v
      rw [find?_overlay_of_absent absent, find?_put, if_pos same]

theorem showsName_overlay (decl : Mapping) (name : String) :
    ShowsName decl name (Mapping.overlay [(.text "name", .text name)] decl) where
  own absent := by
    have none_ : Mapping.find? decl (.text "name") = none := by
      simpa [Mapping.has, Mapping.get?] using absent
    show Mapping.find? (Mapping.overlay _ decl) _ = _
    rw [Mapping.find?_overlay_of_absent none_, Mapping.find?_cons, if_pos (Key.same_self _)]
  declared has := Mapping.exists_of_overlay has

/-- Other facets can be set without an effect on the name. -/
theorem ShowsName.set {decl raw : Mapping} {name facet : String} (h : ShowsName decl name raw)
    (other : facet ≠ "name") (v : Value) : ShowsName decl name (raw.set facet v) := by
  have kept : (raw.set facet v).get? "name" = raw.get? "name" := by
    have apart : ¬ (Key.text facet).same (.text "name") = true := by
      rw [Key.same_text_iff]
      simpa using other
    show Mapping.find? (raw.put _ v) _ = _
    rw [Mapping.find?_put, if_neg apart]
    rfl
  exact ⟨fun absent => kept.trans (h.own absent), fun has => kept ▸ h.declared has⟩

theorem Property.raw_of_ofDeclaration {k : Key} {v : Value} {p : Property}
    (h : ofDeclaration k v = .ok p) :
    p.raw = Mapping.overlay [(.text "name", .text p.name)] (Facet.declaration v) := by
  obtain ⟨⟨name, optional⟩, _, h⟩ := bind_eq_ok.mp h
  obtain ⟨_, _, h⟩ := bind_eq_ok.mp h
  cases h
  rfl

/-- Every part shows its name or what its declaration has in the place of the name. -/
theorem WrittenPart.DeclaredBy.showsName {scope : Scope} {part : WrittenPart} {decl : Mapping}
    (h : part.DeclaredBy scope decl) : ShowsName decl part.name part.raw := by
  cases h with
  | parameter _ _ _ read =>
    rw [raw, (Parameter.read_of_ofDeclaration read).raw]
    exact ((showsName_overlay _ _).set (by decide) _).set (by decide) _
  | baseVariable | uriVariable => exact ⟨fun _ => rfl, nofun⟩
  | property _ _ _ read =>
    rw [raw, Property.raw_of_ofDeclaration read]
    exact showsName_overlay _ _
  | body _ _ _ read =>
    have parts := Body.read_of_ofDeclaration read
    rw [raw, parts.raw, name, parts.name]
    exact showsName_overlay _ _
  | scheme _ read =>
    obtain ⟨s, _, rfl⟩ := map_eq_ok.mp read
    exact showsName_overlay _ s

/-! ## Where the parts of a definition come from -/

theorem Parameter.cases_of_mem_all {v : Value} {names : List String} {ps : List Parameter}
    (h : all v names = .ok ps) {p : Parameter} (mem : p ∈ ps) :
    (∃ k w, (k, w) ∈ v.entries ∧ ofDeclaration k w = .ok p) ∨ ∃ x ∈ names, p = implicit x := by
  obtain ⟨declared, read, rfl⟩ := map_eq_ok.mp h
  rcases List.mem_append.mp mem with own | further
  · obtain ⟨e, entry, came⟩ := exists_of_mem_mapM read own
    exact .inl ⟨e.1, e.2, entry, came⟩
  · obtain ⟨x, new, rfl⟩ := List.mem_map.mp further
    exact .inr ⟨x, (mem_undeclared_iff.mp new).1, rfl⟩

theorem Body.exists_of_mem_all {scope : Scope} {facet : Value} {bs : List Body} {b : Body}
    (h : all scope facet = .ok bs) (mem : b ∈ bs) :
    ∃ mediaType v, DeclaredIn scope facet mediaType v ∧
      ofDeclaration scope mediaType v = .ok b := by
  have single : ∀ v : Value, (ofDeclaration scope scope.mediaType v).map (fun b => [b]) = .ok bs →
      ofDeclaration scope scope.mediaType v = .ok b := by
    intro v came
    obtain ⟨c, own, rfl⟩ := map_eq_ok.mp came
    rwa [List.mem_singleton.mp mem]
  have listed : facet.entries.mapM (ofEntry scope) = .ok bs →
      ∃ mediaType v, DeclaredIn scope facet mediaType v ∧
        ofDeclaration scope mediaType v = .ok b := by
    intro came
    obtain ⟨e, entry, own⟩ := exists_of_mem_mapM came mem
    obtain ⟨mediaType, named, own⟩ := bind_eq_ok.mp own
    exact ⟨mediaType, e.2, .inr ⟨e.1, entry, named⟩, own⟩
  cases facet with
  | null =>
    cases h
    cases mem
  | text s => exact ⟨_, _, .inl ⟨rfl, rfl⟩, single _ h⟩
  | list vs => exact ⟨_, _, .inl ⟨rfl, rfl⟩, single _ h⟩
  | map m =>
    obtain ⟨media, _, h⟩ := bind_eq_ok.mp h
    split at h
    · exact listed h
    · exact ⟨_, _, .inl ⟨rfl, rfl⟩, single _ h⟩
  | _ => exact listed h

theorem Body.declaredBy_of_mem {scope : Scope} {described : Described} {m : Mapping}
    {bs : List Body} (outer : scope.Holds described m) (bodied : described.hasBodies = true)
    (read : all scope (m.get "body") = .ok bs) :
    ∀ part ∈ bs.flatMap writtenParts, ∃ decl, part.DeclaredBy scope decl := by
  intro part mem
  obtain ⟨b, inside, own⟩ := List.mem_flatMap.mp mem
  obtain ⟨mediaType, v, declared, came⟩ := exists_of_mem_all read inside
  rcases List.mem_cons.mp own with rfl | property
  · exact ⟨_, .body outer bodied declared came⟩
  · obtain ⟨p, inside, rfl⟩ := List.mem_map.mp property
    obtain ⟨e, entry, read⟩ := exists_of_mem_mapM (read_of_ofDeclaration came).properties inside
    exact ⟨_, .property (.body outer bodied declared) rfl entry read⟩

theorem Response.bodies_ofDeclaration {scope : Scope} {k : Key} {v : Value} {r : Response}
    (h : ofDeclaration scope k v = .ok r) :
    Body.all scope (v.entries.get "body") = .ok r.bodies := by
  obtain ⟨code, _, h⟩ := bind_eq_ok.mp h
  obtain ⟨description, _, h⟩ := bind_eq_ok.mp h
  obtain ⟨bodies, read, h⟩ := bind_eq_ok.mp h
  cases h
  exact read

theorem Method.declaredBy_of_mem {scope : Scope} {m : Mapping} {method : Method}
    (outer : scope.Holds .method m) (read : Read scope m method) :
    ∀ part ∈ method.writtenParts, ∃ decl, part.DeclaredBy scope decl := by
  intro part mem
  rw [writtenParts, List.flatMap_append] at mem
  rcases List.mem_append.mp mem with parameter | body
  · obtain ⟨p, inside, rfl⟩ := List.mem_map.mp parameter
    obtain ⟨e, entry, came⟩ := exists_of_mem_mapM read.queryParameters inside
    exact ⟨_, .parameter outer rfl entry came⟩
  · rcases List.mem_append.mp body with own | answered
    · exact Body.declaredBy_of_mem outer rfl read.bodies part own
    · obtain ⟨b, held, inside⟩ := List.mem_flatMap.mp answered
      obtain ⟨response, answer, held⟩ := List.mem_flatMap.mp held
      obtain ⟨e, entry, came⟩ := exists_of_mem_mapM read.responses answer
      exact Body.declaredBy_of_mem (.response outer entry) rfl (Response.bodies_ofDeclaration came)
        part (List.mem_flatMap.mpr ⟨b, held, inside⟩)

namespace Resource

variable {scope : Scope} {above : List Resource} {r : Resource} {m : Mapping}

theorem DeclaredBy.methods (way : DeclaredBy scope "" scope.root above r m) :
    ∀ method ∈ r.methods, ∃ n, scope.Holds .method n ∧ Method.Read scope n method := by
  intro method mem
  obtain ⟨parentUri, depth, d, expansion⟩ := way.expansion
  have methods := expansion.methods
  rw [← expansion.uri] at methods
  obtain ⟨traits, shared, methods⟩ := Traced.outcome_bind_eq_ok.mp methods
  obtain ⟨inherited, _, methods⟩ := Traced.outcome_bind_eq_ok.mp methods
  rw [Traced.outcome_mapList] at methods
  obtain ⟨⟨name, v⟩, listed, came⟩ := exists_of_mem_mapM methods mem
  obtain ⟨e, entry, named⟩ := List.mem_filterMap.mp listed
  obtain ⟨_, verb, same⟩ := Option.map_eq_some_iff.mp named
  cases same
  obtain ⟨key, known⟩ := httpMethod?_eq_some_iff.mp verb
  obtain ⟨sources, made, read⟩ := Method.exists_sources came
  have declared : (Key.text name, e.2) ∈ m := key ▸ entry
  exact ⟨_, .method way shared declared known made, Method.read_of_ofMapping read⟩

theorem DeclaredBy.declaredBy_of_mem (way : DeclaredBy scope "" scope.root above r m) :
    ∀ part ∈ r.writtenParts, ∃ decl, part.DeclaredBy scope decl := by
  intro part mem
  rcases List.mem_append.mp mem with parameter | method
  · obtain ⟨p, inside, rfl⟩ := List.mem_map.mp parameter
    obtain ⟨_, _, _, expansion⟩ := way.expansion
    rcases Parameter.cases_of_mem_all expansion.uriParameters inside with
      ⟨k, v, entry, came⟩ | ⟨x, named, rfl⟩
    · exact ⟨_, .parameter (.resource way) rfl entry came⟩
    · exact ⟨_, .uriVariable way (expansion.relativeUri ▸ named)⟩
  · obtain ⟨method, inside, own⟩ := List.mem_flatMap.mp method
    obtain ⟨n, outer, read⟩ := way.methods method inside
    exact Method.declaredBy_of_mem outer read part own

end Resource

theorem TypeDecl.declaredBy_of_mem {scope : Scope} {root : Mapping} {ts : List TypeDecl}
    (source : root ∈ scope.root :: scope.libraries.map (·.2)) (read : all root = .ok ts) :
    ∀ p ∈ ts.flatMap (·.properties), ∃ decl, (WrittenPart.property p).DeclaredBy scope decl := by
  intro p mem
  obtain ⟨t, inside, own⟩ := List.mem_flatMap.mp mem
  obtain ⟨e, entry, came⟩ := exists_of_mem_mapM read inside
  obtain ⟨name, _, came⟩ := bind_eq_ok.mp came
  split at came
  · cases came
    cases own
  · obtain ⟨properties, read, came⟩ := bind_eq_ok.mp came
    cases came
    obtain ⟨f, declared, came⟩ := exists_of_mem_mapM read own
    exact ⟨_, .property (.type source entry) rfl declared came⟩

namespace Api

variable {files : Files.Entry} {base : Files.Path} {root : Mapping} {api : Api}

/-- Every part of a definition that has a raw mapping comes from a declaration in the root, in a
library, or in what types and traits make of them. -/
theorem declaredBy_of_mem (came : (ofRoot files base root).outcome = .ok api) :
    ∃ scope, Scope.ofRoot root (api.libraries.map fun l => (l.1, l.2.raw)) = .ok scope ∧
      ∀ part ∈ api.writtenParts, ∃ decl, part.DeclaredBy scope decl := by
  obtain ⟨used, scope, uri, declared, bare, parts, rfl⟩ := ofRoot_eq_ok_iff.mp came
  have framed := framed_of_frame parts.frame
  have named := parts.scope_filled
  have resources := parts.resources
  rw [resourcesOf, Traced.outcome_mapList] at resources
  obtain ⟨mediaType, -, rfl⟩ := map_eq_ok.mp parts.scope
  refine ⟨_, named, ?_⟩
  intro part mem
  rw [writtenParts, List.flatMap_append, List.map_append] at mem
  rcases List.mem_append.mp mem with mem | mem
  · rcases List.mem_append.mp mem with mem | mem
    · rcases List.mem_append.mp mem with parameter | scheme
      · obtain ⟨p, inside, rfl⟩ := List.mem_map.mp parameter
        rcases Parameter.cases_of_mem_all framed.baseUriParameters inside with
          ⟨k, v, entry, read⟩ | ⟨x, named, rfl⟩
        · exact ⟨_, .parameter .root rfl entry read⟩
        · exact ⟨_, .baseVariable parts.baseUri named⟩
      · obtain ⟨s, inside, rfl⟩ := List.mem_map.mp scheme
        obtain ⟨e, entry, read⟩ := exists_of_mem_mapM framed.securitySchemes inside
        exact ⟨_, .scheme entry read⟩
    · obtain ⟨r, inside, own⟩ := List.mem_flatMap.mp mem
      obtain ⟨above, reached⟩ := Resource.reached_of_mem_subtrees declared inside
      obtain ⟨m, way⟩ := Resource.exists_declaredBy reached resources
      exact way.declaredBy_of_mem part own
  · rcases List.mem_append.mp mem with own | library
    · obtain ⟨p, inside, rfl⟩ := List.mem_map.mp own
      exact TypeDecl.declaredBy_of_mem List.mem_cons_self framed.types p inside
    · obtain ⟨p, inside, rfl⟩ := List.mem_map.mp library
      obtain ⟨t, typed, held⟩ := List.mem_flatMap.mp inside
      obtain ⟨l, listed, typed⟩ := List.mem_flatMap.mp typed
      obtain ⟨l, mem, rfl⟩ := List.mem_map.mp listed
      obtain ⟨e, _, read⟩ := exists_of_mem_mapM parts.libraries mem
      have source : l.raw ∈ (used.map fun l => (l.name, l.raw)).map (·.2) :=
        List.mem_map_of_mem (List.mem_map_of_mem mem)
      exact TypeDecl.declaredBy_of_mem (List.mem_cons_of_mem _ source)
        (Library.types_of_read read) p (List.mem_flatMap.mpr ⟨t, typed, held⟩)

end Api

end RamlDocs
