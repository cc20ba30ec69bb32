import RamlDocs.Proofs.Definition.Assembly
import RamlDocs.Proofs.Definition.Verbatim
import RamlDocs.Proofs.Json.Object
import RamlDocs.Proofs.Value.Ordinary
import RamlDocs.Proofs.Value.Plain
import RamlDocs.Proofs.View.Header

/-!
# Types that are JSON schemas

The JSON schema behind the name of a type is looked up in two ways. While resources are expanded it
is found in the declarations as written, and for the tables of a view in the registry of the types
made from them. Both come to the same schema (`schema?_eq_schema_of_find?`), as both take the first
declaration of a name, and a declaration and the type made from it have the same schema.

What a view lists under schemas is read from the root by itself. A schema of that list is known to
the registry where `schemas` is a mapping, and only there (`find?_of_shownSchema_iff`): a list of
mappings is gathered for the view, but declares no types.
-/

namespace RamlDocs

variable {k : Key} {v : Value} {t : TypeDecl} {root : Mapping} {types : List TypeDecl}
  {name : String}

/-! ## Declarations of types -/

/-- The JSON schema that the declaration of a type is or has as its type. -/
def TypeDecl.schemaText? (declared : Value) : Option String :=
  Facet.jsonText?
    (match declared with
    | .map decl => Facet.declaredType decl
    | v => v)

theorem TypeDecl.schemaText?_of_jsonText? {s : String} (h : Facet.jsonText? v = some s) :
    TypeDecl.schemaText? v = some s := by
  cases v with
  | text u => exact h
  | _ => cases h

/-- A type expression by itself is no schema, as little as the type that it declares. -/
theorem TypeDecl.jsonText?_declaredType (bare : Facet.jsonText? v = none) :
    Facet.jsonText? (Facet.declaredType (Facet.declaration v)) = TypeDecl.schemaText? v := by
  cases v with
  | map m => rfl
  | text s =>
    have kept : TypeDecl.schemaText? (.text s) = none := bare
    rw [kept]
    exact bare
  | _ => rfl

/-- A type has the schema of its declaration, and then no parents. -/
theorem TypeDecl.schema_ofDeclaration (h : TypeDecl.ofDeclaration k v = .ok t) :
    k.asText = .ok t.name ∧ t.schema = Value.ofText? (TypeDecl.schemaText? v) ∧
      (t.schema ≠ .null → t.parents = []) := by
  obtain ⟨name, named, h⟩ := bind_eq_ok.mp h
  split at h
  next s text =>
    cases h
    rw [TypeDecl.schemaText?_of_jsonText? text]
    exact ⟨named, rfl, fun _ => rfl⟩
  next bare =>
    obtain ⟨properties, _, h⟩ := bind_eq_ok.mp h
    cases h
    refine ⟨named, congrArg Value.ofText? (jsonText?_declaredType bare), fun notNull => ?_⟩
    rw [Ne, Value.ofText?_eq_null_iff, ← Ne, Option.ne_none_iff_isSome] at notNull
    exact if_pos notNull

/-- The types of a list are those that a root with text keys declares. -/
structure TypeDecl.DeclaredBy (types : List TypeDecl) (root : Mapping) : Prop where
  textual : entriesWithin textual root = true
  all : TypeDecl.all root = .ok types

namespace TypeDecl.DeclaredBy

theorem declarations (h : DeclaredBy types root) :
    entriesWithin RamlDocs.textual (TypeDecl.declarations root) = true :=
  entriesWithin_overlay (Value.within_entries (Value.within_get h.textual "schemas"))
    (Value.within_entries (Value.within_get h.textual "types"))

/-- The first type of a name has the schema of the first declaration under the name. -/
theorem map_schema_named? (h : DeclaredBy types root) (name : String) :
    (Registry.named? types name).map (·.schema) =
      ((TypeDecl.declarations root).get? name).map
        fun v => Value.ofText? (TypeDecl.schemaText? v) := by
  unfold Registry.named? Mapping.get? Mapping.find?
  rw [Option.map_map]
  refine map_find?_of_mapM h.all fun e mem t came => ?_
  obtain ⟨s, key⟩ := exists_text_of_textual ((entriesWithin_iff.mp h.declarations).2 e mem).1
  obtain ⟨named, schema, -⟩ := schema_ofDeclaration came
  rw [key, Key.asText_text] at named
  refine ⟨?_, schema⟩
  rw [← Except.ok.inj named, key, Bool.eq_iff_iff, Key.same_text_iff, Key.text.injEq, beq_iff_eq]

theorem parents_eq_nil (h : DeclaredBy types root) (mem : t ∈ types) (schema : t.schema ≠ .null) :
    t.parents = [] := by
  obtain ⟨_, _, came⟩ := exists_of_mem_mapM h.all mem
  exact (schema_ofDeclaration came).2.2 schema

end TypeDecl.DeclaredBy

/-! ## Scope and registry -/

/-- The registry has the types that the root of the scope and its libraries declare. -/
structure Registry.ReadFrom (registry : Registry) (scope : Scope) : Prop where
  own : TypeDecl.DeclaredBy registry.types scope.root
  aliases : scope.libraries = registry.libraries.map fun l => (l.1, l.2.raw)
  libraries : ∀ l ∈ registry.libraries, TypeDecl.DeclaredBy l.2.types l.2.raw

theorem lookup_map_snd {α β : Type} (f : α → β) (entries : List (String × α)) (name : String) :
    (entries.map fun e => (e.1, f e.2)).lookup name = (entries.lookup name).map f := by
  induction entries with
  | nil => rfl
  | cons e entries ih =>
    rw [List.map_cons, List.lookup_cons, List.lookup_cons, ih]
    cases name == e.1 <;> rfl

/-- A name with at most one point has none, or is an alias and a name around it. -/
theorem exists_append_point (once : name.toList.count '.' ≤ 1) :
    '.' ∉ name.toList ∨ ∃ owner inner, name = owner ++ "." ++ inner ∧
      '.' ∉ owner.toList ∧ '.' ∉ inner.toList := by
  by_cases dotted : '.' ∈ name.toList
  · obtain ⟨as, bs, text⟩ := List.append_of_mem dotted
    rw [text, List.count_append, List.count_cons_self] at once
    refine .inr ⟨String.ofList as, String.ofList bs, ?_, ?_, ?_⟩
    · apply String.toList_injective
      simpa using text
    · rw [String.toList_ofList, ← List.count_eq_zero]
      omega
    · rw [String.toList_ofList, ← List.count_eq_zero]
      omega
  · exact .inl dotted

namespace Registry.ReadFrom

variable {registry : Registry} {scope : Scope}

/-- Scope and registry look in the same place for a name: where one finds no place, neither does the
other, and else the registry finds the first type of a name among those that the place declares. -/
theorem place (h : registry.ReadFrom scope) (once : name.toList.count '.' ≤ 1)
    (solid : Text.trimmed name = name) :
    (scope.source? name = none ∧ registry.find? name = none) ∨
      ∃ owner root types inner, TypeDecl.DeclaredBy types root ∧
        scope.source? name = some (root, inner) ∧
        registry.find? name = (Registry.named? types inner).map fun t => (owner, t) := by
  rcases exists_append_point once with plain | ⟨owner, inner, rfl, free, plain⟩
  · refine .inr ⟨none, scope.root, registry.types, name, h.own, ?_, find?_of_not_mem plain solid⟩
    rw [Scope.source?, Scope.splitName_of_not_mem plain]
  · have pieces : Text.splitAt '.' (Text.trimmed (owner ++ "." ++ inner)) = [owner, inner] := by
      rw [solid, ← Text.splitAt_of_not_mem plain]
      exact Text.splitAt_of_toList (by simp) free
    have found : registry.find? (owner ++ "." ++ inner) = _ := Registry.find?_of_alias pieces
    rw [Registry.typesOf] at found
    have source : scope.source? (owner ++ "." ++ inner) =
        (registry.libraries.lookup owner).map fun library => (library.raw, inner) := by
      rw [Scope.source?, Scope.splitName_append free, h.aliases]
      simp only [lookup_map_snd, Option.map_map, Function.comp_def]
    cases held : registry.libraries.lookup owner with
    | none => exact .inl ⟨by rw [source, held]; rfl, by rw [found, held]; rfl⟩
    | some library =>
      refine .inr ⟨some owner, library.raw, library.types, inner,
        h.libraries _ (Registry.lookup_mem held), ?_, ?_⟩
      · rw [source, held]
        rfl
      · rw [found, held]
        rfl

/-- The schema behind a name is that of the type that is found under it, and a type with a schema
has no parents. -/
theorem schema? (h : registry.ReadFrom scope) (once : name.toList.count '.' ≤ 1)
    (solid : Text.trimmed name = name) :
    Value.ofText? (scope.schema? name) =
        ((registry.find? name).map fun a => a.2.schema).getD .null ∧
      ∀ a, registry.find? name = some a → a.2.schema ≠ .null → a.2.parents = [] := by
  rcases h.place once solid with ⟨source, found⟩ | ⟨_, root, _, inner, declared, source, found⟩
  · rw [Scope.schema?, source, found]
    exact ⟨rfl, fun a held => by cases held⟩
  · have schema : scope.schema? name =
        TypeDecl.schemaText? ((TypeDecl.declarations root).get inner) := by
      rw [Scope.schema?, source]
      rfl
    have named := declared.map_schema_named? inner
    rw [schema, found, Option.map_map, Function.comp_def, named, Mapping.get]
    refine ⟨?_, fun a held notNull => ?_⟩
    · cases (TypeDecl.declarations root).get? inner <;> rfl
    · obtain ⟨t, first, rfl⟩ := Option.map_eq_some_iff.mp held
      exact declared.parents_eq_nil (Registry.named?_mem first) notNull

end Registry.ReadFrom

/-! ## Tables -/

theorem Schema.table_eq_ofRows (schema : Value) :
    Schema.table schema = .ofRows (Schema.table schema).rows := by
  rw [Schema.table]
  split <;> rfl

theorem Schema.tableOf_eq_ofRows (content : Value) :
    (Schema.tableOf content).value = .ofRows (Schema.tableOf content).value.rows := by
  unfold Schema.tableOf
  split
  · exact Schema.table_eq_ofRows _
  · exact Schema.table_eq_ofRows _
  · split
    · exact Schema.table_eq_ofRows _
    · rfl
  · rfl

/-- A type without parents and properties has the table of its schema, if it has one. -/
theorem Registry.tableOf_of_schema {registry : Registry} {a : Declared}
    (found : registry.find? name = some a) (parents : a.2.parents = [])
    (properties : a.2.properties = []) {s : String} (schema : a.2.schema = .text s) :
    (registry.tableOf name).value = (Schema.tableOf (.text s)).value := by
  have own : a.2.ownRows = (Schema.tableOf (.text s)).value.rows := by
    rw [TypeDecl.ownRows, properties, schema]
  rw [Registry.tableOf, Registry.tableAfter_of_new found List.not_mem_nil, TypeDecl.properParents,
    parents, own, Schema.tableOf_eq_ofRows]
  rfl

/-! ## Definitions -/

variable {files : Files.Entry} {base : Files.Path} {doc : Mapping} {api : Api}

/-- A library has the types that its file declares. -/
theorem Library.declaredBy_of_read {e : Key × Value} {library : Library}
    (h : Library.read files base e = .ok library) :
    TypeDecl.DeclaredBy library.types library.raw := by
  obtain ⟨path, _, h⟩ := bind_eq_ok.mp h
  obtain ⟨root, read, h⟩ := bind_eq_ok.mp h
  obtain ⟨name, _, h⟩ := bind_eq_ok.mp h
  obtain ⟨types, declared, rfl⟩ := map_eq_ok.mp h
  obtain ⟨text, _, read⟩ := bind_eq_ok.mp read
  obtain ⟨value, _, read⟩ := bind_eq_ok.mp read
  cases value with
  | map m => exact ⟨Mapping.within_plain read, declared⟩
  | _ => cases read

/-- The registry of a definition has the types that its scope can refer to. -/
theorem Registry.exists_readFrom_ofApi (plain : doc.plain = .ok root)
    (h : (Api.ofRoot files base root).outcome = .ok api) :
    ∃ scope, Scope.ofRoot root (api.libraries.map fun l => (l.1, l.2.raw)) = .ok scope ∧
      scope.root = root ∧ (Registry.ofApi api).ReadFrom scope := by
  obtain ⟨used, scope, uri, declared, bare, parts, rfl⟩ := Api.ofRoot_eq_ok_iff.mp h
  have aliases : (bare.filled declared used).libraries.map (fun l => (l.1, l.2.raw)) =
      used.map fun l => (l.name, l.raw) := by
    rw [Api.filled, List.map_map]
    rfl
  have named := parts.scope
  obtain ⟨mediaType, -, rfl⟩ := map_eq_ok.mp named
  refine ⟨_, (congrArg (Scope.ofRoot root) aliases).trans named, rfl,
    ⟨⟨Mapping.within_plain plain, ?_⟩, aliases.symm, ?_⟩⟩
  · exact (Api.types_and_raw_frame parts.frame).1
  · intro l mem
    obtain ⟨library, inside, rfl⟩ := List.mem_map.mp mem
    obtain ⟨e, -, read⟩ := exists_of_mem_mapM parts.libraries inside
    exact Library.declaredBy_of_read read

/-- What resources take for the JSON schema of a type is the schema of the type that the registry
finds, and none where it finds no type or one that is no schema. The table of a type that is a
schema and has no properties is that of the schema. -/
theorem schema?_eq_schema_of_find? (plain : doc.plain = .ok root)
    (h : (Api.ofRoot files base root).outcome = .ok api) (once : name.toList.count '.' ≤ 1)
    (solid : Text.trimmed name = name) :
    ∃ scope, Scope.ofRoot root (api.libraries.map fun l => (l.1, l.2.raw)) = .ok scope ∧
      Value.ofText? (scope.schema? name) =
        (((Registry.ofApi api).find? name).map fun a => a.2.schema).getD .null ∧
      ∀ owner t s, (Registry.ofApi api).find? name = some (owner, t) →
        scope.schema? name = some s → t.properties = [] →
          ((Registry.ofApi api).tableOf name).value = (Schema.tableOf (.text s)).value := by
  obtain ⟨scope, named, -, readFrom⟩ := Registry.exists_readFrom_ofApi plain h
  obtain ⟨schema, parents⟩ := readFrom.schema? once solid
  refine ⟨scope, named, schema, fun owner t s found text properties => ?_⟩
  have own : t.schema = .text s := by
    rw [text, found] at schema
    exact schema.symm
  exact Registry.tableOf_of_schema found (parents _ found (by rw [own]; nofun)) properties own

/-- The schema of objects with an age. -/
def petSchema : String := "\x7b\"properties\": \x7b\"age\": \x7b\x7d\x7d\x7d"

/-- A definition with a type, and a library with a type and a schema. -/
def petRoot : Mapping :=
  [("uses", .record [("zoo", .text "zoo.raml")]),
    ("types", .record [("Owner", .record [("properties", .record [("name", .null)])])])].map
      fun e => (.text e.1, e.2)

def petFiles : Files.Entry :=
  .dir [("zoo.raml", .file
    (("types:\n  Cat: Pet\n  Pet: '" ++ petSchema ++ "'\n").toList.map Char.toNat))]

theorem schema?_zooPet :
    ∃ api t, petRoot.plain = .ok petRoot ∧
      (Api.ofRoot petFiles ⟨[]⟩ petRoot).outcome = .ok api ∧
      (Registry.ofApi api).find? "zoo.Pet" = some (some "zoo", t) ∧ t.schema = .text petSchema ∧
      ∃ scope, Scope.ofRoot petRoot (api.libraries.map fun l => (l.1, l.2.raw)) = .ok scope ∧
        Value.ofText? (scope.schema? "zoo.Pet") =
          (((Registry.ofApi api).find? "zoo.Pet").map fun a => a.2.schema).getD .null ∧
        ∀ owner t s, (Registry.ofApi api).find? "zoo.Pet" = some (owner, t) →
          scope.schema? "zoo.Pet" = some s → t.properties = [] →
            ((Registry.ofApi api).tableOf "zoo.Pet").value = (Schema.tableOf (.text s)).value := by
  have plain : petRoot.plain = .ok petRoot := Mapping.plain_of_within (by decide +kernel)
  have shown : (Api.ofRoot petFiles ⟨[]⟩ petRoot).outcome.toOption.map (fun api =>
      ((Registry.ofApi api).find? "zoo.Pet").map fun a => (a.1, a.2.schema.text?)) =
      some (some (some "zoo", some petSchema)) := by
    decide +kernel
  obtain ⟨api, came, found⟩ := exists_ok_of_toOption shown
  obtain ⟨⟨owner, t⟩, found, parts⟩ := Option.map_eq_some_iff.mp found
  obtain ⟨rfl, text⟩ := Prod.mk.inj parts
  exact ⟨api, t, plain, came, found, Value.text?_eq_some_iff.mp text,
    schema?_eq_schema_of_find? plain came (by decide +kernel) (by decide +kernel)⟩

/-! ## Schemas of the view -/

/-- A schema that is declared by a text is listed with what the text spells. -/
theorem mem_shownSchemas {s : String} {v : Value}
    (declared : (.text name, .text s) ∈ gatheredEntries (root.get "schemas"))
    (spells : Json.read s = .ok v) : .map [(.text name, v)] ∈ (shownSchemas root).value := by
  unfold shownSchemas
  simp only [Logged.value_bind, Logged.value_mapList, Logged.value_pure]
  refine List.mem_filterMap.mpr ⟨_, List.mem_map_of_mem declared, ?_⟩
  rw [shownSchema, spells]
  rfl

/-- A name that is not declared under `types` has the schema that a mapping `schemas` declares. -/
theorem TypeDecl.DeclaredBy.map_schema_named?_of_new (h : TypeDecl.DeclaredBy types root)
    (new : (root.get "types").entries.has name = false) :
    (Registry.named? types name).map (·.schema) =
      ((root.get "schemas").entries.get? name).map
        fun v => Value.ofText? (TypeDecl.schemaText? v) := by
  have absent : (root.get "types").entries.get? name = none :=
    Option.isNone_iff_eq_none.mp (Option.isSome_eq_false_iff.mp new)
  have kept : (TypeDecl.declarations root).get? name = (root.get "schemas").entries.get? name :=
    Mapping.find?_overlay_of_absent absent
  rw [h.map_schema_named? name, kept]

/-- A text that spells an object and is listed with the schemas is the schema of a type of its name,
if the schemas are declared in a mapping, and of none if they are listed one by one. -/
theorem find?_of_shownSchema_iff (plain : doc.plain = .ok root)
    (h : (Api.ofRoot files base root).outcome = .ok api) {s : String} {m : Mapping}
    (declared : (.text name, .text s) ∈ gatheredEntries (root.get "schemas"))
    (object : Json.read s = .ok (.map m)) (free : '.' ∉ name.toList)
    (solid : Text.trimmed name = name) (new : (root.get "types").entries.has name = false) :
    .map [(.text name, .map m)] ∈ (shownSchemas root).value ∧
      ((∃ t, (Registry.ofApi api).find? name = some (none, t) ∧ t.schema = .text s) ↔
        (root.get "schemas").isMap = true) := by
  obtain ⟨scope, -, rfl, readFrom⟩ := Registry.exists_readFrom_ofApi plain h
  have named := readFrom.own.map_schema_named?_of_new new
  refine ⟨mem_shownSchemas declared object, ?_⟩
  rw [Registry.find?_of_not_mem free solid]
  cases schemas : scope.root.get "schemas" with
  | map declarations =>
    rw [schemas] at declared named
    have within := Value.within_get readFrom.own.textual "schemas"
    rw [schemas] at within
    have found : Mapping.get? declarations name = some (.text s) :=
      (distinct_of_within within).find?_of_mem declared
    rw [Value.entries, found] at named
    obtain ⟨t, first, schema⟩ := Option.map_eq_some_iff.mp named
    have text : TypeDecl.schemaText? (.text s) = some s :=
      TypeDecl.schemaText?_of_jsonText? (if_pos (Json.looksLikeJson_of_read object))
    have own : t.schema = .text s := schema.trans (congrArg Value.ofText? text)
    simp [first, own, Value.isMap]
  | _ =>
    have lost : Registry.named? (Registry.ofApi api).types name = none := by
      rw [schemas] at named
      exact Option.map_eq_none_iff.mp named
    simp [lost, Value.isMap]

/-- A definition that declares schemas. -/
def schemaRoot (schemas : Value) : Mapping :=
  [(.text "title", .text "T"), (.text "schemas", schemas)]

theorem find?_of_shownSchema_user :
    ∃ api, (Api.ofRoot (.dir []) ⟨[]⟩ (schemaRoot (.record [("User", .text "\x7b\x7d")]))).outcome =
        .ok api ∧
      .map [(.text "User", .map [])] ∈
        (shownSchemas (schemaRoot (.record [("User", .text "\x7b\x7d")]))).value ∧
      ∃ t, (Registry.ofApi api).find? "User" = some (none, t) ∧ t.schema = .text "\x7b\x7d" := by
  have plain : (schemaRoot (.record [("User", .text "\x7b\x7d")])).plain = .ok _ :=
    Mapping.plain_of_within (by decide +kernel)
  have reads : ((Api.ofRoot (.dir []) ⟨[]⟩
      (schemaRoot (.record [("User", .text "\x7b\x7d")]))).outcome.toOption.map fun _ => ()) =
      some () := by
    decide +kernel
  obtain ⟨api, came, -⟩ := exists_ok_of_toOption reads
  have free : '.' ∉ "User".toList := by decide +kernel
  obtain ⟨shown, known⟩ := find?_of_shownSchema_iff plain came (List.mem_singleton_self _) (by rfl)
    free (by decide +kernel) (by decide +kernel)
  exact ⟨api, came, shown, known.mpr rfl⟩

/-- Listed one by one, the schema is shown but unknown to the registry. -/
theorem listed_schema_unknown :
    ∃ api, (Api.ofRoot (.dir []) ⟨[]⟩
        (schemaRoot (.list [.record [("User", .text "\x7b\x7d")]]))).outcome = .ok api ∧
      .map [(.text "User", .map [])] ∈
        (shownSchemas (schemaRoot (.list [.record [("User", .text "\x7b\x7d")]]))).value ∧
      (Registry.ofApi api).find? "User" = none := by
  have lost : ((Api.ofRoot (.dir []) ⟨[]⟩
      (schemaRoot (.list [.record [("User", .text "\x7b\x7d")]]))).outcome.toOption.map fun api =>
        ((Registry.ofApi api).find? "User").isNone) = some true := by
    decide +kernel
  obtain ⟨api, came, unknown⟩ := exists_ok_of_toOption lost
  exact ⟨api, came, mem_shownSchemas (List.mem_singleton_self _) (by rfl),
    Option.isNone_iff_eq_none.mp unknown⟩

end RamlDocs
