import RamlDocs.Definition.Api
import RamlDocs.Proofs.Definition.Renaming
import RamlDocs.Proofs.Definition.Verbatim

/-!
# Declarations moved into a library

The resource types and traits of a definition can be moved into a library of their own, if its
resources then refer to them by the alias of the library (`Mapping.relocated`). The resources stay
the same, but for the recorded names of types, wherever the resource types that are applied refer to
none of the moved declarations themselves (`Scope.Detached`). A name without a point is looked up in
the root of the definition, wherever it is written; so what a moved resource type refers to by such
a name is lost with the move.
-/

namespace RamlDocs

open Resource (childrenOf)

/-! ## The moved definition -/

/-- Whether a root declares a name. -/
def Mapping.declares (root : Mapping) (kind : Kind) (name : String) : Bool :=
  Mapping.has (root.get kind.key).entries name

/-- The names of what a root declares, once it is moved into the library `owner`. -/
def relocation (root : Mapping) (owner : String) : Renaming := fun kind name =>
  if root.declares kind name then owner ++ "." ++ name else name

/-- The root of the library that takes the declarations of a root. -/
def Mapping.movedDeclarations (root : Mapping) : Mapping :=
  [(.text "resourceTypes", root.get "resourceTypes"), (.text "traits", root.get "traits")]

/-- A root whose declarations are moved into the library `owner`, with the libraries it then
uses. -/
def Mapping.relocated (root : Mapping) (owner : String) (uses : Value) : Mapping :=
  Mapping.set (renamedEntries (relocation root owner) .root
    ((root.without "resourceTypes").without "traits")) "uses" uses

/-- A scope whose declarations are moved into the library `owner`. -/
def Scope.relocated (scope : Scope) (owner : String) (uses : Value) : Scope where
  root := scope.root.relocated owner uses
  libraries := scope.libraries ++ [(owner, scope.root.movedDeclarations)]
  mediaType := scope.mediaType

/-- The library that takes the declarations of a root. -/
def Library.ofMoved (root : Mapping) (owner : String) : Library where
  name := owner
  raw := root.movedDeclarations

/-- It is what is read from a file with the moved declarations. -/
theorem Library.ofMapping_moved (root : Mapping) (owner : String) :
    Library.ofMapping owner root.movedDeclarations = .ok (Library.ofMoved root owner) := rfl

variable {root : Mapping} {scope : Scope} {owner : String} {uses : Value}

/-- But for its resources and libraries, the moved root is what is left of the root. -/
theorem get_relocated_eq_get_without {name : String} (other : name ≠ "uses")
    (slashless : name.toList.head? ≠ some '/') : (root.relocated owner uses).get name =
      ((root.without "resourceTypes").without "traits").get name := by
  have elsewhere : Place.root.below (.text name) = .elsewhere := by
    simp [Place.below, resourceKey?_text slashless]
  have kept : ¬ (Key.text "uses").same (.text name) = true := by
    rw [Key.same_text_iff]
    simpa using other.symm
  have renamed : Mapping.get (renamedEntries (relocation root owner) .root
      ((root.without "resourceTypes").without "traits")) name = _ :=
    get_renamedEntries (by simp) elsewhere _
  rw [Value.renamed_elsewhere] at renamed
  rw [← renamed]
  unfold Mapping.relocated Mapping.set Mapping.get Mapping.get?
  rw [Mapping.find?_put, if_neg kept]

theorem get_relocated {name : String} (other : name ∉ ["resourceTypes", "traits", "uses"])
    (slashless : name.toList.head? ≠ some '/') :
    (root.relocated owner uses).get name = root.get name := by
  simp only [List.mem_cons, List.not_mem_nil, or_false, not_or] at other
  rw [get_relocated_eq_get_without other.2.2 slashless, Mapping.get_without other.2.1,
    Mapping.get_without other.1]

theorem declarations_relocated :
    TypeDecl.declarations (root.relocated owner uses) = TypeDecl.declarations root := by
  unfold TypeDecl.declarations
  simp (disch := decide) only [get_relocated]

/-- Nothing of a kind that is moved is left. -/
theorem get_relocated_key (kind : Kind) : (root.relocated owner uses).get kind.key = .null := by
  cases kind with
  | resourceType =>
    rw [Kind.key, get_relocated_eq_get_without (by decide) (by decide),
      Mapping.get_without (by decide), Mapping.get_without_self]
  | trait =>
    rw [Kind.key, get_relocated_eq_get_without (by decide) (by decide), Mapping.get_without_self]

theorem childrenOf_relocated :
    childrenOf (root.relocated owner uses) = (childrenOf root).map fun c =>
      (c.1, c.2.renamed (relocation root owner) .resource) := by
  have plain : ∀ name ∈ ["uses", "traits", "resourceTypes"], resourceKey? (.text name) = none := by
    have slashless : ∀ name ∈ ["uses", "traits", "resourceTypes"],
        name.toList.head? ≠ some '/' := by decide
    exact fun name mem => resourceKey?_text (slashless name mem)
  rw [Mapping.relocated, Mapping.set, Resource.childrenOf_put (plain "uses" (by decide)),
    childrenOf_renamedEntries (.inl rfl), Resource.childrenOf_without (plain "traits" (by decide)),
    Resource.childrenOf_without (plain "resourceTypes" (by decide))]

/-! ## Names -/

theorem Scope.lookup_eq_none (unused : ∀ l ∈ scope.libraries, l.1 ≠ owner) :
    scope.libraries.lookup owner = none := by
  rw [List.lookup_eq_none_iff]
  intro l mem
  simpa using (unused l mem).symm

theorem Scope.lookup_relocated_libraries (unused : ∀ l ∈ scope.libraries, l.1 ≠ owner)
    (name : String) : (scope.relocated owner uses).libraries.lookup name =
      if name = owner then some scope.root.movedDeclarations else scope.libraries.lookup name := by
  rw [Scope.relocated, List.lookup_append, List.lookup_cons, List.lookup_nil]
  by_cases same : name = owner
  · simp [same, Scope.lookup_eq_none unused]
  · have other : (name == owner) = false := by simpa using same
    simp [same, other]

/-- Where a name is looked up once the declarations are moved: in what is left of the root, in the
new library, or in the same library as before. -/
theorem Scope.source?_relocated (unused : ∀ l ∈ scope.libraries, l.1 ≠ owner) (uses : Value)
    (name : String) :
    (scope.source? name = some (scope.root, name) ∧ (scope.relocated owner uses).source? name =
        some (scope.root.relocated owner uses, name)) ∨
    (∃ inner, (Scope.splitName name).1 = some owner ∧ scope.source? name = none ∧
      (scope.relocated owner uses).source? name =
        some (scope.root.movedDeclarations, inner)) ∨
    (scope.relocated owner uses).source? name = scope.source? name := by
  have absent := Scope.lookup_eq_none unused
  unfold Scope.source?
  rcases Scope.splitName_eq name with local_ | ⟨other, inner, split⟩
  · rw [local_]
    exact .inl ⟨rfl, rfl⟩
  · rw [split]
    simp only [Scope.lookup_relocated_libraries unused]
    by_cases same : other = owner
    · exact .inr (.inl ⟨inner, by rw [same], by rw [same, absent]; rfl, by rw [if_pos same]; rfl⟩)
    · exact .inr (.inr (by rw [if_neg same]))

/-! ## References -/

/-- A reference that does not go by the alias `owner`. -/
def Avoids (owner : String) (r : Reference) : Prop :=
  (Scope.splitName r.2.display).1 ≠ some owner

/-- A reference that is neither to a moved declaration nor goes by the alias `owner`. -/
def Foreign (root : Mapping) (owner : String) (r : Reference) : Prop :=
  Avoids owner r ∧ root.declares r.1 r.2.display = false

/-- A reference that can be renamed: only texts can take the alias `owner`. -/
def Renamable (root : Mapping) (owner : String) (r : Reference) : Prop :=
  Avoids owner r ∧ (root.declares r.1 r.2.display = true → ∃ name, r.2 = .text name)

/-- The declarations of a scope can move into a library of their own: the alias is not in use, and
neither it nor the names of the declarations have points. Every reference can be renamed. -/
structure Scope.Movable (scope : Scope) (owner : String) : Prop where
  plainAlias : '.' ∉ owner.toList
  plainNames : ∀ kind name, scope.root.declares kind name = true → '.' ∉ name.toList
  unused : ∀ l ∈ scope.libraries, l.1 ≠ owner
  references : ∀ r ∈ referencesOfEntries .root scope.root, Renamable scope.root owner r

theorem Foreign.renamable {r : Reference} (h : Foreign root owner r) : Renamable root owner r := by
  refine ⟨h.1, fun declared => ?_⟩
  rw [h.2] at declared
  cases declared

theorem Foreign.keeps {r : Reference} (h : Foreign root owner r) :
    (relocation root owner).Keeps r := by
  intro name read
  rw [Key.eq_display_of_asText read, relocation, h.2]
  rfl

theorem relocation_of_declares {kind : Kind} {name : String}
    (declared : root.declares kind name = true) :
    relocation root owner kind name = owner ++ "." ++ name := if_pos declared

theorem relocation_of_not_declares {kind : Kind} {name : String}
    (declared : root.declares kind name = false) : relocation root owner kind name = name := by
  rw [relocation, declared]
  rfl

/-- No name is moved to one that avoids the alias, and no two to one. -/
theorem relocation_injective (plain : '.' ∉ owner.toList) {kind : Kind} {a b : String}
    (ha : Avoids owner (kind, .text a)) (hb : Avoids owner (kind, .text b))
    (same : relocation root owner kind a = relocation root owner kind b) : a = b := by
  have moved : ∀ name, (Scope.splitName (owner ++ "." ++ name)).1 = some owner := fun name => by
    rw [Scope.splitName_append plain]
  cases da : root.declares kind a with
  | true =>
    cases db : root.declares kind b with
    | true =>
      rw [relocation_of_declares da, relocation_of_declares db] at same
      exact String.append_right_inj _ |>.mp same
    | false =>
      rw [relocation_of_declares da, relocation_of_not_declares db] at same
      exact absurd (same ▸ moved a) hb
  | false =>
    cases db : root.declares kind b with
    | true =>
      rw [relocation_of_not_declares da, relocation_of_declares db] at same
      exact absurd (same ▸ moved b) ha
    | false => rwa [relocation_of_not_declares da, relocation_of_not_declares db] at same

/-- A key that is no text is not renamed, and no text is the same. -/
theorem key_of_not_text {ρ : Renaming} {kind : Kind} {k : Key} (h : ¬ ∃ name, k = .text name) :
    ρ.key kind k = k ∧ ∀ name, k.same (.text name) = false := by
  constructor
  · cases k with
    | text name => exact absurd ⟨name, rfl⟩ h
    | _ => rfl
  · intro name
    rw [Bool.eq_false_iff, Ne, Key.same_text_iff]
    exact fun same => h ⟨name, same⟩

theorem faithful_relocation (plain : '.' ∉ owner.toList) :
    (relocation root owner).Faithful (Renamable root owner) where
  same kind k l hk hl := by
    by_cases tk : ∃ a, k = .text a
    · obtain ⟨a, rfl⟩ := tk
      by_cases tl : ∃ b, l = .text b
      · obtain ⟨b, rfl⟩ := tl
        rw [Bool.eq_iff_iff, Renaming.key, Renaming.key, Key.same_text_iff, Key.same_text_iff]
        simp only [Key.text.injEq]
        exact ⟨relocation_injective plain hk.1 hl.1, fun same => by rw [same]⟩
      · obtain ⟨same, apart⟩ := key_of_not_text tl
        rw [same, Renaming.key, Key.same_comm, apart, Key.same_comm, apart]
    · obtain ⟨same, apart⟩ := key_of_not_text tk
      rw [same]
      cases l with
      | text b => rw [Renaming.key, apart, apart]
      | _ => rfl
  asText kind k hk := by
    by_cases tk : ∃ a, k = .text a
    · obtain ⟨a, rfl⟩ := tk
      rfl
    · have kept : root.declares kind k.display = false :=
        Bool.eq_false_iff.mpr fun declared => tk (hk.2 declared)
      rw [(key_of_not_text tk).1]
      cases read : k.asText with
      | error f => rfl
      | ok name =>
        rw [← Key.eq_display_of_asText read] at kept
        rw [Except.map, relocation_of_not_declares kept]

/-! ## Scopes -/

/-- What is declared under a name is declared under its new name in the library. -/
theorem lookup_relocated (movable : scope.Movable owner) {kind : Kind} {name : String}
    (named : Named (Renamable scope.root owner) kind name) :
    (scope.relocated owner uses).lookup kind.key (relocation scope.root owner kind name) =
      scope.lookup kind.key name := by
  obtain ⟨k, ⟨avoids, -⟩, read⟩ := named
  have display := Key.eq_display_of_asText read
  cases declared : scope.root.declares kind name with
  | true =>
    have moved : Mapping.get scope.root.movedDeclarations kind.key = scope.root.get kind.key := by
      cases kind <;> rfl
    have found : (scope.relocated owner uses).libraries.lookup owner =
        some scope.root.movedDeclarations := by
      rw [Scope.lookup_relocated_libraries movable.unused, if_pos rfl]
    rw [relocation_of_declares declared]
    unfold Scope.lookup Scope.source?
    rw [Scope.splitName_append movable.plainAlias,
      Scope.splitName_of_not_mem (movable.plainNames kind name declared)]
    simp only [found, Option.map_some, moved]
  | false =>
    rw [relocation_of_not_declares declared]
    unfold Scope.lookup
    rcases Scope.source?_relocated movable.unused uses name with
      ⟨before, after⟩ | ⟨_, other, -⟩ | same
    · rw [before, after]
      simp only [get_relocated_key]
      rw [Mapping.get_of_has_eq_false declared]
      rfl
    · rw [display] at other
      exact absurd other avoids
    · rw [same]

/-- The new library declares neither types of annotations nor schemas, and the root keeps its
own. -/
theorem readsAlike_relocated (unused : ∀ l ∈ scope.libraries, l.1 ≠ owner) :
    (scope.relocated owner uses).ReadsAlike scope where
  annotationType? name := by
    have found : (scope.relocated owner uses).lookup "annotationTypes" name =
        scope.lookup "annotationTypes" name := by
      unfold Scope.lookup
      rcases Scope.source?_relocated unused uses name with
        ⟨before, after⟩ | ⟨inner, -, before, after⟩ | same
      · rw [before, after]
        simp only [get_relocated (show "annotationTypes" ∉ _ by decide) (by decide)]
      · rw [before, after]
        rfl
      · rw [same]
    unfold Scope.annotationType?
    rw [found]
  schema? name := by
    unfold Scope.schema?
    rcases Scope.source?_relocated unused uses name with
      ⟨before, after⟩ | ⟨inner, -, before, after⟩ | same
    · rw [before, after]
      simp only [declarations_relocated]
    · rw [before, after]
      rfl
    · rw [same]
  mediaType := rfl

theorem renames_relocated (movable : scope.Movable owner) :
    scope.Renames (scope.relocated owner uses) (relocation scope.root owner)
      (Renamable scope.root owner) where
  faithful := faithful_relocation movable.plainAlias
  lookup _ _ named := lookup_relocated movable named
  readsAlike := readsAlike_relocated movable.unused

/-! ## Resources -/

/-- No resource type that is applied refers to a moved declaration: neither along the chain of types
of a resource nor in what the chain contributes, with the placeholders filled in. -/
def Scope.Detached (scope : Scope) (owner : String) : Prop :=
  ∀ parentUri c, Resource.Met scope parentUri c → ResourceType.Spares scope
    (Resource.params (parentUri ++ c.1)) (Foreign scope.root owner) c.2.entries

/-- The resources of a definition, expanded to the given depth. -/
def Scope.resourcesTo (scope : Scope) (depth : Nat) : Except Fault (List Resource) :=
  (childrenOf scope.root).mapM fun c => (Resource.ofDeclaration scope "" depth c).outcome

/-- The resources of the moved definition are those of the definition, to every depth. -/
theorem resourcesTo_relocated (movable : scope.Movable owner) (detached : scope.Detached owner)
    (uses : Value) (depth : Nat) :
    (scope.relocated owner uses).resourcesTo depth = (scope.resourcesTo depth).map
      (Resource.retypedAll (relocation scope.root owner .resourceType)) := by
  have root : (scope.relocated owner uses).root = scope.root.relocated owner uses := rfl
  have each := Resource.retypedAll_eq_map (relocation scope.root owner .resourceType)
  unfold Scope.resourcesTo
  rw [root, childrenOf_relocated, funext each]
  refine mapM_map_eq_map fun c mem => ?_
  exact Resource.ofDeclaration_renamed (renames_relocated movable)
    (fun parentUri c met => (detached parentUri c met).mono fun r h => ⟨h.renamable, h.keeps⟩)
    (.root mem) (Resource.forall_references_child (.inl rfl) movable.references mem)

theorem resourcesTo_eq_tooDeep_or (scope : Scope) {depth deeper : Nat} (le : depth ≤ deeper) :
    scope.resourcesTo depth = .error .tooDeep ∨
      scope.resourcesTo depth = scope.resourcesTo deeper :=
  mapM_eq_error_or fun c _ => Resource.ofDeclaration_eq_tooDeep_or le "" c

/-- Two expansions are the same, unless one of them ends at its depth. -/
theorem resourcesTo_agree (scope : Scope) (a b : Nat) :
    scope.resourcesTo a = .error .tooDeep ∨ scope.resourcesTo b = .error .tooDeep ∨
      scope.resourcesTo b = scope.resourcesTo a := by
  rcases Nat.le_total a b with le | le
  · exact (resourcesTo_eq_tooDeep_or scope le).imp_right fun same => .inr same.symm
  · exact .inr (resourcesTo_eq_tooDeep_or scope le)

/-! ## Definitions -/

/-- How many levels of resources a definition may have. -/
def Api.depthLimit (root : Mapping) : Nat := (Value.map root).depth + expansionLimit

theorem Api.resources_ofMapping (root : Mapping) (libraries : List Library) :
    (Api.ofMapping root libraries).outcome.map (·.resources) = (do
      let scope ← Scope.ofRoot root (libraries.map fun l => (l.name, l.raw))
      let baseUri ← Facet.text? (root.get "baseUri")
      let resources ← scope.resourcesTo (Api.depthLimit scope.root)
      (Api.frame root baseUri).map fun _ => resources) := by
  unfold Api.ofMapping Api.resourcesOf
  simp only [Traced.outcome_bind, Traced.outcome_ofExcept, Traced.outcome_mapList,
    Traced.outcome_pure, bind_map]
  refine bind_congr_ok fun scope _ => bind_congr_ok fun baseUri _ => bind_congr_ok fun rs _ => ?_
  cases Api.frame root baseUri <;> rfl

theorem Api.frame_relocated (baseUri : Option String) :
    Api.frame (root.relocated owner uses) baseUri = (Api.frame root baseUri).map fun api =>
      { api with raw := some (root.relocated owner uses) } := by
  unfold Api.frame TypeDecl.all
  simp (disch := decide) only [bind_map, declarations_relocated, get_relocated]
  rfl

theorem Scope.ofRoot_relocated {libraries : List Library}
    (named : Scope.ofRoot root (libraries.map fun l => (l.name, l.raw)) = .ok scope) :
    Scope.ofRoot (root.relocated owner uses)
      ((libraries ++ [Library.ofMoved root owner]).map fun l => (l.name, l.raw)) =
        .ok (scope.relocated owner uses) := by
  obtain ⟨mediaType, read, rfl⟩ := map_eq_ok.mp named
  unfold Scope.ofRoot
  simp (disch := decide) only [get_relocated, read, List.map_append]
  rfl

/-- The resources of a definition stay the same, but for the recorded names of types, when its
resource types and traits move into a library, as long as no resource type that is applied refers to
any of them: expanded to any depth, and in the definition as a whole, where only the limit to the
depth depends on what is left of the root. The library is the one that the moved declarations are
read as. -/
theorem Api.resources_relocated (libraries : List Library) (uses : Value)
    (named : Scope.ofRoot root (libraries.map fun l => (l.name, l.raw)) = .ok scope)
    (movable : scope.Movable owner) (detached : scope.Detached owner) :
    let renamed := Resource.retypedAll (relocation root owner .resourceType)
    let before := (Api.ofMapping root libraries).outcome.map (·.resources)
    let after := (Api.ofMapping (root.relocated owner uses)
      (libraries ++ [Library.ofMoved root owner])).outcome.map (·.resources)
    Library.ofMapping owner root.movedDeclarations = .ok (Library.ofMoved root owner) ∧
    (∀ depth, (scope.relocated owner uses).resourcesTo depth =
      (scope.resourcesTo depth).map renamed) ∧
    (before = .error .tooDeep ∨ after = .error .tooDeep ∨ after = before.map renamed) := by
  intro renamed before after
  obtain rfl : scope.root = root := by
    obtain ⟨_, _, rfl⟩ := map_eq_ok.mp named
    rfl
  have alike := resourcesTo_relocated movable detached uses
  refine ⟨Library.ofMapping_moved scope.root owner, alike, ?_⟩
  have old : before = _ := Api.resources_ofMapping scope.root libraries
  have new : after = _ := Api.resources_ofMapping _ _
  rw [Scope.ofRoot_relocated named, get_relocated (by decide) (by decide)] at new
  rw [named] at old
  rw [old, new]
  simp only [ok_bind, alike, Api.frame_relocated]
  cases Facet.text? (scope.root.get "baseUri") with
  | error f => exact .inr (.inr rfl)
  | ok baseUri =>
    simp only [ok_bind]
    have root : (scope.relocated owner uses).root = scope.root.relocated owner uses := rfl
    rw [root]
    -- the limits of the two roots differ, and the lower one may be too low
    rcases resourcesTo_agree scope (Api.depthLimit scope.root)
      (Api.depthLimit (scope.root.relocated owner uses)) with deep | deep | same
    · exact .inl (by rw [deep, error_bind])
    · exact .inr (.inl (by rw [deep, Except.map, error_bind]))
    · refine .inr (.inr ?_)
      rw [same, map_bind, bind_map]
      refine bind_congr_ok fun resources _ => ?_
      cases Api.frame scope.root baseUri <;> rfl

def shelfType : Mapping := [(.text "get", .record [("description", .text "Lists")])]

/-- A definition with shelves and what stands on them: both are of one type, and traits apply to
the shelves and to a method. -/
def shelvesRoot : Mapping :=
  [("resourceTypes", .record [("shelf", .map shelfType)]),
    ("traits", .record [("paged", .record [("queryParameters", .record [("page", .null)])])]),
    ("/shelves", .record [("type", .text "shelf"), ("is", .list [.text "paged"]),
      ("/books", .record [("type", .record [("shelf", .null)]),
        ("post", .record [("is", .text "paged")])])])].map fun e => (.text e.1, e.2)

def shelvesScope : Scope where
  root := shelvesRoot
  libraries := []
  mediaType := "application/json"

/-- The libraries that a root uses once its declarations are moved. -/
def libraryUses : Value := .record [("lib", .text "lib.raml")]

theorem mem_of_declares {kind : Kind} {name : String} (h : root.declares kind name = true) :
    Key.text name ∈ (root.get kind.key).entries.map (·.1) := by
  obtain ⟨v, found⟩ := Option.isSome_iff_exists.mp h
  obtain ⟨k, same, mem⟩ := Mapping.mem_of_find? found
  rw [Key.same_text_iff] at same
  exact List.mem_map.mpr ⟨_, mem, same⟩

theorem movable_shelvesScope : shelvesScope.Movable "lib" where
  plainAlias := by decide
  plainNames kind name declared := by
    have mem := mem_of_declares declared
    cases kind with
    | resourceType =>
      obtain rfl := Key.text.inj (List.mem_singleton.mp mem)
      decide
    | trait =>
      obtain rfl := Key.text.inj (List.mem_singleton.mp mem)
      decide
  unused := by simp [shelvesScope]
  references := by
    have listed : referencesOfEntries .root shelvesRoot = [(.resourceType, .text "shelf"),
        (.trait, .text "paged"), (.resourceType, .text "shelf"), (.trait, .text "paged")] := by
      decide +kernel
    have avoids : ∀ r ∈ referencesOfEntries .root shelvesRoot,
        (Scope.splitName r.2.display).1 ≠ some "lib" := by
      rw [listed]
      decide +kernel
    have texts : ∀ r ∈ referencesOfEntries .root shelvesRoot, r.2 = .text r.2.display := by
      rw [listed]
      decide +kernel
    exact fun r mem => ⟨avoids r mem, fun _ => ⟨_, texts r mem⟩⟩

theorem eq_of_definition?_shelvesScope {params : Template.Params} {r : String × Mapping}
    {d : Mapping} (h : ResourceType.definition? shelvesScope params r = .ok (some d)) :
    d = shelfType := by
  have listed : ∀ m, shelvesScope.lookup "resourceTypes" r.1 = .map m → m = shelfType := by
    intro m found
    have mem : (Key.text r.1, Value.map m) ∈ [(.text "shelf", .map shelfType)] :=
      Scope.mem_of_lookup rfl found
    exact Value.map.inj (Prod.mk.inj (List.mem_singleton.mp mem)).2
  refine listed d ((ResourceType.yields_definition? verbatim_literal _ _ fun m found => ?_).of_eq_ok
    h d rfl)
  rw [listed m found]
  decide

theorem detached_shelvesScope : shelvesScope.Detached "lib" := by
  have untyped : ResourceType.reference? shelfType = .ok none := rfl
  have silent : referencesOfEntries .resource shelfType = [] := by decide +kernel
  intro parentUri c _
  constructor
  · intro d met
    have same : d = shelfType := by
      cases met with
      | named _ defined => exact eq_of_definition?_shelvesScope defined
      | further _ defined rest =>
        rw [eq_of_definition?_shelvesScope defined] at rest
        cases rest with
        | named refers => cases untyped.symm.trans refers
        | further refers => cases untyped.symm.trans refers
    have typeless : Mapping.get shelfType "type" = .null := rfl
    rw [same, typeless]
    simp
  · intro applied given
    have same : applied = shelfType := by
      obtain ⟨r, d, type, definition, limit, defined, completed, contributes⟩ :=
        ResourceType.exists_of_contributed? given
      rw [eq_of_definition?_shelvesScope defined] at completed
      have target : ResourceType.target? c.2.entries (.text "get") = some (.text "get") := rfl
      have filled : ResourceType.fillMethod (.text "get")
          (.record [("description", .text "Lists")]) =
            .ok (.record [("description", .text "Lists")]) :=
        Template.fill_of_within _ (by decide)
      rw [ResourceType.apply_of_untyped rfl completed, shelfType, ResourceType.contribution,
        target] at contributes
      simp only [filled, ok_bind] at contributes
      exact (Except.ok.inj contributes).symm
    rw [same, silent]
    simp

/-- Resources and those below them, each with its type and with its methods, the name of each before
those of its query parameters. -/
def shapesOf (rs : List Resource) : List (String × Option String × List (List String)) :=
  (rs.flatMap fun r => r :: r.children).map fun r =>
    (r.uri, r.type, r.methods.map fun m => m.name :: m.queryParameters.map (·.name))

theorem resources_relocated_shelves :
    ∃ before after,
      (Api.ofMapping shelvesRoot []).outcome.map (·.resources) = .ok before ∧
      (Api.ofMapping (shelvesRoot.relocated "lib" libraryUses)
        [Library.ofMoved shelvesRoot "lib"]).outcome.map (·.resources) = .ok after ∧
      after = Resource.retypedAll (relocation shelvesRoot "lib" .resourceType) before ∧
      shapesOf before = [("/shelves", some "shelf", [["get", "page"]]),
        ("/shelves/books", some "shelf", [["post", "page"], ["get"]])] ∧
      shapesOf after = [("/shelves", some "lib.shelf", [["get", "page"]]),
        ("/shelves/books", some "lib.shelf", [["post", "page"], ["get"]])] := by
  have shown : ((Api.ofMapping shelvesRoot []).outcome.map (·.resources)).toOption.map shapesOf =
      some [("/shelves", some "shelf", [["get", "page"]]),
        ("/shelves/books", some "shelf", [["post", "page"], ["get"]])] := by
    decide +kernel
  have moved : ((Api.ofMapping (shelvesRoot.relocated "lib" libraryUses)
      [Library.ofMoved shelvesRoot "lib"]).outcome.map (·.resources)).toOption.map shapesOf =
      some [("/shelves", some "lib.shelf", [["get", "page"]]),
        ("/shelves/books", some "lib.shelf", [["post", "page"], ["get"]])] := by
    decide +kernel
  obtain ⟨before, came, old⟩ := exists_ok_of_toOption shown
  obtain ⟨after, went, new⟩ := exists_ok_of_toOption moved
  have named : Scope.ofRoot shelvesRoot [] = .ok shelvesScope := rfl
  obtain ⟨-, -, deep | deep | same⟩ := Api.resources_relocated [] libraryUses named
    movable_shelvesScope detached_shelvesScope
  · cases came.symm.trans deep
  · cases went.symm.trans deep
  · have renamed := went.symm.trans same
    rw [came] at renamed
    exact ⟨before, after, came, went, Except.ok.inj renamed, old, new⟩

/-! ## What is lost -/

/-- A resource of a type that has its method from another type. -/
def inheritingRoot : Mapping :=
  [("resourceTypes", .record [
      ("base", .record [("get", .record [("description", .text "List")])]),
      ("item", .record [("type", .text "base")])]),
    ("/a", .record [("type", .text "item")])].map fun e => (.text e.1, e.2)

def inheritingScope : Scope where
  root := inheritingRoot
  libraries := []
  mediaType := "application/json"

theorem movable_inheritingScope : inheritingScope.Movable "lib" where
  plainAlias := by decide
  plainNames kind name declared := by
    have mem := mem_of_declares declared
    cases kind with
    | resourceType =>
      rcases List.mem_pair.mp mem with same | same
      · obtain rfl := Key.text.inj same
        decide
      · obtain rfl := Key.text.inj same
        decide
    | trait => cases mem
  unused := by simp [inheritingScope]
  references := by
    have listed : referencesOfEntries .root inheritingRoot = [(.resourceType, .text "item")] := by
      decide +kernel
    have avoids : (Scope.splitName "item").1 ≠ some "lib" := by decide +kernel
    intro r mem
    rw [show inheritingScope.root = inheritingRoot from rfl, listed] at mem
    obtain rfl := List.mem_singleton.mp mem
    exact ⟨avoids, fun _ => ⟨_, rfl⟩⟩

/-- A moved type does not get what another moved type, which it names as its own, has: the method of
the resource is lost with the move. -/
theorem inherited_method_lost :
    inheritingScope.Movable "lib" ∧ ∃ before after,
      (Api.ofMapping inheritingRoot []).outcome.map (·.resources) = .ok before ∧
      (Api.ofMapping (inheritingRoot.relocated "lib" libraryUses)
        [Library.ofMoved inheritingRoot "lib"]).outcome.map (·.resources) = .ok after ∧
      shapesOf before = [("/a", some "item", [["get"]])] ∧
      shapesOf after = [("/a", some "lib.item", [])] := by
  have shown : ((Api.ofMapping inheritingRoot []).outcome.map (·.resources)).toOption.map
      shapesOf = some [("/a", some "item", [["get"]])] := by
    decide +kernel
  have moved : ((Api.ofMapping (inheritingRoot.relocated "lib" libraryUses)
      [Library.ofMoved inheritingRoot "lib"]).outcome.map (·.resources)).toOption.map shapesOf =
        some [("/a", some "lib.item", [])] := by
    decide +kernel
  obtain ⟨before, came, old⟩ := exists_ok_of_toOption shown
  obtain ⟨after, went, new⟩ := exists_ok_of_toOption moved
  exact ⟨movable_inheritingScope, before, after, came, went, old, new⟩

end RamlDocs
