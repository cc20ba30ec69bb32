import RamlDocs.Proofs.Definition.Resource
import RamlDocs.Proofs.Definition.ResourceKeys
import RamlDocs.Proofs.Definition.Verbatim
import RamlDocs.Proofs.Value.Depth

/-!
# Where expansion ends

The resources below a resource come from its own mapping and from the definitions along its chain of
types, and those may refer to types again. So the expansion of a resource need not end: a type whose
definition has a resource of the same type goes on forever (`Resource.endless`). It does
end where the types lie in layers (`Scope.Layered`), so that the resources inside a definition refer
to types of lower layers only. The chain of types itself does no harm: it may stay in its layer, and
its length is bounded anyway.

The measure counts layers and, within the highest layer still referred to, how many levels down the
resource's own mapping refers to it (`Value.Fits`). One step of the expansion goes down a level in
the own mapping, and whatever it brings in from definitions lies in lower layers.
-/

namespace RamlDocs

open Template (Params)
open Resource (childrenOf)

/-! ## References to types -/

/-- The names of the resource types that one item of a type facet refers to. -/
def itemTypes : Value → List String
  | .text s => [s]
  | .map m => m.map fun e => e.1.display
  | _ => []

/-- The names of the resource types that a type facet refers to. -/
def typeNames (v : Value) : List String := (Facet.asList v).flatMap itemTypes

/-- A name stands in a type facet of a resource, so many levels below the resource that a value
declares. -/
def Value.RefersTo (name : String) : Nat → Value → Prop
  | 0, v => ∃ w, (.text "type", w) ∈ v.entries ∧ name ∈ typeNames w
  | level + 1, v => ∃ c ∈ childrenOf v.entries, RefersTo name level c.2

open Value (RefersTo)

variable {scope : Scope} {name : String} {v w : Value} {m : Mapping} {level : Nat}

/-- References to types name what the facet names. -/
theorem names_of_references {rs : List (String × Mapping)} (h : Facet.references v = .ok rs) :
    rs.map (·.1) = typeNames v := by
  obtain ⟨lists, computed, rfl⟩ := map_eq_ok.mp h
  have items : lists.map (List.map (·.1)) = (Facet.asList v).map itemTypes := by
    apply map_eq_of_mapM computed
    intro item _ list referred
    cases item with
    | map m =>
      apply map_eq_of_mapM referred
      intro e _ r named
      obtain ⟨s, written, rfl⟩ := map_eq_ok.mp named
      exact Key.eq_display_of_asText written
    | _ =>
      cases referred
      rfl
  rw [List.map_flatten, items, typeNames, List.flatMap_def]

theorem refersTo_of_reference? {r : String × Mapping}
    (h : ResourceType.reference? m = .ok (some r)) : RefersTo r.1 0 (.map m) := by
  obtain ⟨rs, referred, first⟩ := map_eq_ok.mp h
  have named : r.1 ∈ typeNames (m.get "type") := by
    rw [← names_of_references referred]
    exact List.mem_map_of_mem (List.mem_of_head? first)
  refine ⟨m.get "type", Mapping.mem_of_get rfl ?_, named⟩
  intro absent
  rw [absent] at named
  cases named

/-- A value that is completed refers to no type that neither of the two refers to. -/
theorem typeNames_completedBy (h : name ∈ typeNames (v.completedBy w)) :
    name ∈ typeNames v ∨ name ∈ typeNames w := by
  have names : ∀ n : Mapping, typeNames (.map n) = n.map fun e => e.1.display :=
    fun n => List.flatMap_singleton itemTypes (.map n)
  rcases Value.completedBy_cases v w with same | same | ⟨m, s, rfl, rfl, merged⟩
  · exact .inl (same ▸ h)
  · exact .inr (same ▸ h)
  · rw [merged, names] at h
    rw [names, names]
    obtain ⟨e, mem, rfl⟩ := List.mem_map.mp h
    rcases Mapping.key_of_mem_merge mem with ⟨u, held⟩ | ⟨u, held⟩
    · exact .inl (List.mem_map.mpr ⟨_, held, rfl⟩)
    · exact .inr (List.mem_map.mpr ⟨_, held, rfl⟩)

/-- Completing a value brings in no reference: at every level it refers to what one of the two
refers to there. -/
theorem Value.RefersTo.of_completedBy (h : RefersTo name level (v.completedBy w)) :
    RefersTo name level v ∨ RefersTo name level w := by
  induction level generalizing v w with
  | zero =>
    rcases Value.completedBy_cases v w with same | same | ⟨m, s, rfl, rfl, merged⟩
    · exact .inl (same ▸ h)
    · exact .inr (same ▸ h)
    rw [merged] at h
    obtain ⟨u, facet, mem⟩ := h
    refine Mapping.forall_value_merge (P := fun u => name ∈ typeNames u →
      RefersTo name 0 (.map m) ∨ RefersTo name 0 (.map s)) ?_ ?_ ?_ facet mem
    · exact fun u v hu hv completed => (typeNames_completedBy completed).elim hu hv
    · exact fun u held mem => .inl ⟨u, held, mem⟩
    · exact fun u held mem => .inr ⟨u, held, mem⟩
  | succ level ih =>
    rcases Value.completedBy_cases v w with same | same | ⟨m, s, rfl, rfl, merged⟩
    · exact .inl (same ▸ h)
    · exact .inr (same ▸ h)
    rw [merged] at h
    obtain ⟨c, mem, inner⟩ := h
    refine Resource.forall_children_merge (P := fun u => RefersTo name level u →
      RefersTo name (level + 1) (.map m) ∨ RefersTo name (level + 1) (.map s)) ?_ ?_ ?_ c mem inner
    · exact fun u v hu hv completed => (ih completed).elim hu hv
    · exact fun c held inner => .inl ⟨c, held, inner⟩
    · exact fun c held inner => .inr ⟨c, held, inner⟩

theorem Value.RefersTo.lt_depth (h : RefersTo name level v) : level < v.depth := by
  induction level generalizing v with
  | zero =>
    obtain ⟨w, facet, -⟩ := h
    exact Nat.zero_lt_of_lt (Value.depth_lt_of_mem_entries facet)
  | succ level ih =>
    obtain ⟨c, mem, inner⟩ := h
    have inside := Value.depth_lt_of_mem_entries (Resource.mem_childrenOf_iff.mp mem).2
    exact Nat.lt_of_le_of_lt (ih inner) inside

/-! ## Layers -/

/-- Resource types lie in layers: the type of a definition lies no higher than the definition, and
the types of the resources inside it lie lower, whatever it is applied to. -/
structure Scope.Layered (scope : Scope) (layer : String → Nat) : Prop where
  inherits : ∀ uri reference d,
    ResourceType.definition? scope (Resource.params uri) reference = .ok (some d) →
      ∀ name, RefersTo name 0 (.map d) → layer name ≤ layer reference.1
  nests : ∀ uri reference d,
    ResourceType.definition? scope (Resource.params uri) reference = .ok (some d) →
      ∀ name level, RefersTo name (level + 1) (.map d) → layer name < layer reference.1

/-- Inside the definitions along a chain of types, references lie lower than those of the resource
that the chain completes. -/
theorem Scope.Layered.of_chain {layer : String → Nat} (layered : scope.Layered layer)
    {uri : String} {limit bound : Nat} {ds : List Mapping}
    (h : ResourceType.chain scope (Resource.params uri) limit m = .ok ds)
    (own : ∀ name, RefersTo name 0 (.map m) → layer name ≤ bound) {d : Mapping} (mem : d ∈ ds)
    (refers : RefersTo name (level + 1) (.map d)) : layer name < bound := by
  induction limit generalizing m ds with
  | zero =>
    cases h
    cases mem
  | succ limit ih =>
    obtain ⟨reference, named, h⟩ := bind_eq_ok.mp h
    cases reference with
    | none =>
      cases h
      cases mem
    | some reference =>
      obtain ⟨found, defined, h⟩ := bind_eq_ok.mp h
      cases found with
      | none =>
        cases h
        cases mem
      | some filled =>
        obtain ⟨rest, followed, h⟩ := bind_eq_ok.mp h
        cases h
        have first := own reference.1 (refersTo_of_reference? named)
        rcases List.mem_cons.mp mem with rfl | later
        · exact Nat.lt_of_lt_of_le (layered.nests uri reference _ defined name level refers) first
        · refine ih followed (fun name inherited => ?_) later
          exact Nat.le_trans (layered.inherits uri reference _ defined name inherited) first

/-! ## The end of an expansion -/

/-- Expansion ends within so many levels: the resources of the completed mapping, if there is one,
end within one level less. -/
def Resource.EndsWithin (scope : Scope) : Nat → String → String × Value → Prop
  | 0, _, _ => False
  | bound + 1, parentUri, (relativeUri, declared) =>
    ∀ type m, (ResourceType.apply scope (Resource.params (parentUri ++ relativeUri))
      ResourceType.chainLimit declared.entries).outcome = .ok (type, m) →
        ∀ c ∈ childrenOf m, EndsWithin scope bound (parentUri ++ relativeUri) c

theorem Resource.EndsWithin.mono {bound : Nat} {parentUri : String} {declared : String × Value}
    (h : EndsWithin scope bound parentUri declared) {more : Nat} (le : bound ≤ more) :
    EndsWithin scope more parentUri declared := by
  induction bound generalizing more parentUri declared with
  | zero => exact h.elim
  | succ bound ih =>
    obtain ⟨more, rfl⟩ := Nat.exists_eq_add_of_le' le
    intro type m completed c mem
    exact ih (h type m completed c mem) (Nat.le_add_left bound more)

/-- One bound serves for all of finitely many things. -/
theorem exists_bound {α : Type} {P : Nat → α → Prop}
    (mono : ∀ a less more, less ≤ more → P less a → P more a) {as : List α}
    (h : ∀ a ∈ as, ∃ bound, P bound a) : ∃ bound, ∀ a ∈ as, P bound a := by
  induction as with
  | nil => exact ⟨0, by simp⟩
  | cons a as ih =>
    obtain ⟨⟨first, hf⟩, rest⟩ := List.forall_mem_cons.mp h
    obtain ⟨others, ho⟩ := ih rest
    refine ⟨max first others, List.forall_mem_cons.mpr ⟨?_, fun b mem => ?_⟩⟩
    · exact mono a first _ (Nat.le_max_left _ _) hf
    · exact mono b others _ (Nat.le_max_right _ _) (ho b mem)

/-- An expansion ends if it does from every resource of the completed mapping on. -/
theorem Resource.endsWithin_of_children {uri parentUri : String}
    (h : ∀ ds result, ResourceType.chain scope (Resource.params (parentUri ++ uri))
        ResourceType.chainLimit v.entries = .ok ds → ResourceType.Completion ds v.entries result →
      ∀ c ∈ childrenOf result, ∃ bound, EndsWithin scope bound (parentUri ++ uri) c) :
    ∃ bound, EndsWithin scope bound parentUri (uri, v) := by
  cases completed : (ResourceType.apply scope (Resource.params (parentUri ++ uri))
      ResourceType.chainLimit v.entries).outcome with
  | error f =>
    refine ⟨1, fun type m found => ?_⟩
    rw [completed] at found
    cases found
  | ok result =>
    obtain ⟨type, m⟩ := result
    obtain ⟨ds, followed, completion⟩ := ResourceType.completion_of_apply completed
    obtain ⟨bound, all⟩ :=
      exists_bound (fun _ _ _ le ends => ends.mono le) (h ds m followed completion)
    refine ⟨bound + 1, fun _ _ found => ?_⟩
    cases completed.symm.trans found
    exact all

/-- All references lie in the layers up to `top`, and those in `top` itself less than `levels`
levels down. -/
def Value.Fits (layer : String → Nat) (top levels : Nat) (v : Value) : Prop :=
  ∀ name level, RefersTo name level v → layer name ≤ top ∧ (levels ≤ level → layer name < top)

/-- What is below a completed resource fits one level less. -/
theorem Value.Fits.of_completion {layer : String → Nat} (layered : scope.Layered layer)
    {uri : String} {top levels : Nat} {ds : List Mapping} {result : Mapping}
    (fits : v.Fits layer top (levels + 1))
    (followed : ResourceType.chain scope (Resource.params uri) ResourceType.chainLimit v.entries =
      .ok ds)
    (completion : ResourceType.Completion ds v.entries result) :
    ∀ c ∈ childrenOf result, c.2.Fits layer top levels := by
  have own : ∀ name level, RefersTo name level (.map v.entries) → RefersTo name level v := by
    intro name level refers
    cases level with
    | zero => exact refers
    | succ level => exact refers
  refine completion.forall_children (P := Value.Fits layer top levels) ?_ ?_ ?_
  · intro u w hu hw name level refers
    exact refers.of_completedBy.elim (hu name level) (hw name level)
  · intro c mem name level refers
    have below := fits name (level + 1) ⟨c, mem, refers⟩
    exact ⟨below.1, fun le => below.2 (Nat.succ_le_succ le)⟩
  · intro d hd c mem name level refers
    have lower : layer name < top := by
      refine layered.of_chain followed (fun name refers => ?_) hd ⟨c, mem, refers⟩
      exact (fits name 0 (own name 0 refers)).1
    exact ⟨Nat.le_of_lt lower, fun _ => lower⟩

theorem exists_reference_of_chain {params : Params} {limit : Nat} {d : Mapping} {ds : List Mapping}
    (h : ResourceType.chain scope params limit m = .ok (d :: ds)) :
    ∃ name, RefersTo name 0 (.map m) := by
  cases limit with
  | zero => cases h
  | succ limit =>
    obtain ⟨reference, named, h⟩ := bind_eq_ok.mp h
    cases reference with
    | none => cases h
    | some reference => exact ⟨reference.1, refersTo_of_reference? named⟩

/-- Without references the expansion goes through the resource's own mapping. -/
theorem Resource.endsWithin_of_untyped (untyped : ∀ name level, ¬ RefersTo name level v)
    (parentUri uri : String) : ∃ bound, EndsWithin scope bound parentUri (uri, v) := by
  induction hd : v.depth using Nat.strong_induction_on generalizing v parentUri uri with
  | _ depth ih =>
    refine Resource.endsWithin_of_children fun ds result followed completion c mem => ?_
    cases completion with
    | bare =>
      have inside := Value.depth_lt_of_mem_entries (Resource.mem_childrenOf_iff.mp mem).2
      refine ih c.2.depth (hd ▸ inside) (fun name level refers => ?_) _ c.1 rfl
      exact untyped name (level + 1) ⟨c, mem, refers⟩
    | step =>
      obtain ⟨name, refers⟩ := exists_reference_of_chain followed
      exact absurd refers (untyped name 0)

/-- If expansion ends from the layers below on, it ends from a layer on, level by level. -/
theorem Resource.endsWithin_of_fits {layer : String → Nat} (layered : scope.Layered layer)
    {top levels : Nat} (fits : v.Fits layer top levels)
    (lower : ∀ w : Value, (∀ name level, RefersTo name level w → layer name < top) →
      ∀ parentUri uri, ∃ bound, EndsWithin scope bound parentUri (uri, w))
    (parentUri uri : String) : ∃ bound, EndsWithin scope bound parentUri (uri, v) := by
  induction levels generalizing v parentUri uri with
  | zero => exact lower v (fun name level refers => (fits name level refers).2 level.zero_le) _ _
  | succ levels ih =>
    refine Resource.endsWithin_of_children fun ds result followed completion c mem => ?_
    exact ih (fits.of_completion layered followed completion c mem) _ c.1

theorem Resource.endsWithin_of_below {layer : String → Nat} (layered : scope.Layered layer)
    {top : Nat} (below : ∀ name level, RefersTo name level v → layer name < top)
    (parentUri uri : String) : ∃ bound, EndsWithin scope bound parentUri (uri, v) := by
  induction top generalizing v parentUri uri with
  | zero =>
    refine Resource.endsWithin_of_untyped (fun name level refers => ?_) _ _
    exact Nat.not_lt_zero _ (below name level refers)
  | succ top ih =>
    -- no reference is as deep as the value
    have fits : v.Fits layer top v.depth := fun name level refers =>
      ⟨Nat.le_of_lt_succ (below name level refers),
        fun deep => absurd refers.lt_depth (Nat.not_lt.mpr deep)⟩
    exact Resource.endsWithin_of_fits layered fits (fun _ => ih) parentUri uri

/-- A value refers to finitely many types. -/
theorem Value.exists_layer (layer : String → Nat) (v : Value) :
    ∃ top, ∀ name level, RefersTo name level v → layer name < top := by
  induction hd : v.depth using Nat.strong_induction_on generalizing v with
  | _ depth ih =>
    obtain ⟨own, named⟩ : ∃ top, ∀ e ∈ v.entries, ∀ name ∈ typeNames e.2, layer name < top := by
      refine exists_bound (fun _ _ _ le all name mem => Nat.lt_of_lt_of_le (all name mem) le) ?_
      intro e _
      exact exists_bound (P := fun top name => layer name < top)
        (fun _ _ _ le less => Nat.lt_of_lt_of_le less le)
        fun name _ => ⟨layer name + 1, Nat.lt_succ_self _⟩
    obtain ⟨inner, below⟩ : ∃ top, ∀ c ∈ childrenOf v.entries,
        ∀ name level, RefersTo name level c.2 → layer name < top := by
      refine exists_bound
        (fun _ _ _ le all name level refers => Nat.lt_of_lt_of_le (all name level refers) le) ?_
      intro c mem
      have inside := Value.depth_lt_of_mem_entries (Resource.mem_childrenOf_iff.mp mem).2
      exact ih c.2.depth (hd ▸ inside) c.2 rfl
    refine ⟨max own inner, fun name level refers => ?_⟩
    cases level with
    | zero =>
      obtain ⟨w, facet, mem⟩ := refers
      exact Nat.lt_of_lt_of_le (named _ facet name mem) (Nat.le_max_left _ _)
    | succ level =>
      obtain ⟨c, mem, refers⟩ := refers
      exact Nat.lt_of_lt_of_le (below c mem name level refers) (Nat.le_max_right _ _)

/-! ## Depth enough -/

theorem Traced.bind_congr_of_outcome {α β : Type} {x : Traced α} {f g : α → Traced β}
    (h : ∀ a, x.outcome = .ok a → f a = g a) : x >>= f = x >>= g := by
  obtain ⟨value, notes⟩ := x
  cases value with
  | error e => rfl
  | ok a =>
    exact congrArg (fun y : Traced β => (⟨.ok a, notes⟩ : Logged (Except Fault α)) >>= fun _ => y)
      (h a rfl)

theorem Traced.mapList_congr {α β : Type} {f g : α → Traced β} {as : List α}
    (h : ∀ a ∈ as, f a = g a) : Traced.mapList f as = Traced.mapList g as := by
  induction as with
  | nil => rfl
  | cons a as ih =>
    obtain ⟨own, rest⟩ := List.forall_mem_cons.mp h
    rw [Traced.mapList, Traced.mapList, own, ih rest]

/-- Where expansion ends, it is the same for every depth that is enough. -/
theorem Resource.ofDeclaration_of_endsWithin {bound depth : Nat} {parentUri : String}
    {declared : String × Value} (ends : EndsWithin scope bound parentUri declared)
    (enough : bound ≤ depth) :
    Resource.ofDeclaration scope parentUri depth declared =
      Resource.ofDeclaration scope parentUri bound declared := by
  induction bound generalizing depth parentUri declared with
  | zero => exact ends.elim
  | succ bound ih =>
    obtain ⟨more, rfl⟩ := Nat.exists_eq_add_of_le' enough
    obtain ⟨uri, v⟩ := declared
    unfold Resource.ofDeclaration
    refine Traced.bind_congr_of_outcome fun completed found => ?_
    obtain ⟨type, m⟩ := completed
    have children : Traced.mapList (Resource.ofDeclaration scope (parentUri ++ uri) (more + bound))
        (childrenOf m) =
          Traced.mapList (Resource.ofDeclaration scope (parentUri ++ uri) bound) (childrenOf m) :=
      Traced.mapList_congr fun c mem => ih (ends type m found c mem) (Nat.le_add_left bound more)
    simp only [Nat.add_eq, children]

/-- Where the resource types lie in layers, the expansion of every resource ends, and from some
depth on it is the same to every depth. -/
theorem Resource.expansion_ends {layer : String → Nat} (layered : scope.Layered layer)
    (parentUri : String) (declared : String × Value) :
    ∃ bound, EndsWithin scope bound parentUri declared ∧
      ∀ depth, bound ≤ depth → Resource.ofDeclaration scope parentUri depth declared =
        Resource.ofDeclaration scope parentUri bound declared := by
  obtain ⟨uri, v⟩ := declared
  obtain ⟨top, below⟩ := Value.exists_layer layer v
  obtain ⟨bound, ends⟩ := Resource.endsWithin_of_below layered below parentUri uri
  exact ⟨bound, ends, fun depth enough => Resource.ofDeclaration_of_endsWithin ends enough⟩

/-! ## Types with a resource inside -/

theorem not_refersTo_of_entries (empty : v.entries = []) : ¬ RefersTo name level v := by
  cases level with
  | zero =>
    rintro ⟨w, facet, -⟩
    rw [empty] at facet
    cases facet
  | succ level =>
    rintro ⟨c, mem, -⟩
    rw [empty] at mem
    cases mem

/-- Collections with an item below them. -/
def collectionType : Mapping :=
  [(.text "/item", .record [("type", .text "item")]), (.text "get", .null)]

def itemType : Mapping := [(.text "delete", .null)]

def collectionScope : Scope where
  root := [(.text "resourceTypes",
    .map [(.text "collection", .map collectionType), (.text "item", .map itemType)])]
  libraries := []
  mediaType := "application/json"

/-- Collections lie above items. -/
def collectionLayer (name : String) : Nat := if name = "collection" then 1 else 0

theorem eq_of_definition?_collectionScope {params : Params} {reference : String × Mapping}
    {d : Mapping}
    (h : ResourceType.definition? collectionScope params reference = .ok (some d)) :
    reference.1 = "collection" ∧ d = collectionType ∨ reference.1 = "item" ∧ d = itemType := by
  have listed : ∀ m, collectionScope.lookup "resourceTypes" reference.1 = .map m →
      reference.1 = "collection" ∧ m = collectionType ∨ reference.1 = "item" ∧ m = itemType := by
    intro m found
    have mem : (Key.text reference.1, Value.map m) ∈
        [(.text "collection", .map collectionType), (.text "item", .map itemType)] :=
      Scope.mem_of_lookup rfl found
    simpa using mem
  apply listed
  refine (ResourceType.yields_definition? verbatim_literal _ _ fun m found => ?_).of_eq_ok h d rfl
  rcases listed m found with ⟨-, rfl⟩ | ⟨-, rfl⟩ <;> decide

/-- Below a collection there are references to items only. -/
theorem eq_item_of_refersTo (h : RefersTo name (level + 1) (.map collectionType)) :
    name = "item" := by
  obtain ⟨c, mem, refers⟩ := h
  rcases List.mem_pair.mp (Resource.mem_childrenOf_iff.mp mem).2 with item | get
  · rw [(Prod.mk.inj item).2] at refers
    cases level with
    | zero =>
      simpa [Value.RefersTo, Value.entries, Value.record, typeNames, Facet.asList, itemTypes]
        using refers
    | succ level =>
      obtain ⟨c, mem, refers⟩ := refers
      have type := List.mem_singleton.mp (Resource.mem_childrenOf_iff.mp mem).2
      rw [(Prod.mk.inj type).2] at refers
      exact absurd refers (not_refersTo_of_entries rfl)
  · rw [(Prod.mk.inj get).2] at refers
    exact absurd refers (not_refersTo_of_entries rfl)

theorem layered_collectionScope : collectionScope.Layered collectionLayer := by
  constructor
  · intro uri reference d h name refers
    rcases eq_of_definition?_collectionScope h with ⟨-, rfl⟩ | ⟨-, rfl⟩
    · simp [Value.RefersTo, Value.entries, collectionType] at refers
    · simp [Value.RefersTo, Value.entries, itemType] at refers
  · intro uri reference d h name level refers
    rcases eq_of_definition?_collectionScope h with ⟨named, rfl⟩ | ⟨-, rfl⟩
    · rw [named, eq_item_of_refersTo refers]
      decide
    · obtain ⟨c, mem, refers⟩ := refers
      have delete := List.mem_singleton.mp (Resource.mem_childrenOf_iff.mp mem).2
      rw [(Prod.mk.inj delete).2] at refers
      exact absurd refers (not_refersTo_of_entries rfl)

theorem expansion_ends_collection : ∃ bound, Resource.EndsWithin collectionScope bound ""
    ("/items", .record [("type", .text "collection")]) := by
  obtain ⟨bound, ends, -⟩ := Resource.expansion_ends layered_collectionScope ""
    ("/items", .record [("type", .text "collection")])
  exact ⟨bound, ends⟩

/-- A type with a resource of the same type inside. -/
def endlessType : Mapping := [(.text "/x", .record [("type", .text "t")])]

def endlessScope : Scope where
  root := [(.text "resourceTypes", .record [("t", .map endlessType)])]
  libraries := []
  mediaType := "application/json"

theorem apply_endlessScope (uri : String) :
    (ResourceType.apply endlessScope (Resource.params uri) ResourceType.chainLimit
      [(.text "type", .text "t")]).outcome = .ok (some "t", endlessType) := by
  have defined : ResourceType.definition? endlessScope (Resource.params uri) ("t", []) =
      .ok (some endlessType) := by
    have plain : entriesWithin Template.literal endlessType = true := by decide
    exact congrArg (Except.map some) (Template.fillEntries_of_within (Resource.params uri) plain)
  refine Traced.outcome_bind_eq_ok.mpr ⟨some ("t", []), rfl, ?_⟩
  refine Traced.outcome_bind_eq_ok.mpr ⟨some endlessType, defined, ?_⟩
  refine Traced.outcome_bind_eq_ok.mpr ⟨(none, endlessType), rfl, ?_⟩
  exact Traced.outcome_bind_eq_ok.mpr ⟨endlessType, rfl, rfl⟩

theorem childrenOf_endlessType :
    childrenOf endlessType = [("/x", .record [("type", .text "t")])] := by
  have key : resourceKey? (.text "/x") = some "/x" :=
    resourceKey?_eq_some_iff.mpr ⟨rfl, by decide +kernel⟩
  unfold endlessType
  rw [Resource.childrenOf_cons, key]
  rfl

theorem Resource.tooDeep_endlessScope (parentUri uri : String) :
    (∀ bound, ¬ EndsWithin endlessScope bound parentUri (uri, .record [("type", .text "t")])) ∧
      ∀ depth, (Resource.ofDeclaration endlessScope parentUri depth
        (uri, .record [("type", .text "t")])).outcome = .error .tooDeep := by
  have child := childrenOf_endlessType
  constructor
  · intro bound
    induction bound generalizing parentUri uri with
    | zero => exact id
    | succ bound ih =>
      intro ends
      refine ih (parentUri ++ uri) "/x" (ends _ _ (apply_endlessScope _) _ ?_)
      rw [child]
      exact List.mem_singleton_self _
  · intro depth
    induction depth generalizing parentUri uri with
    | zero => rfl
    | succ depth ih =>
      have applied : (ResourceType.apply endlessScope (Resource.params (parentUri ++ uri))
          ResourceType.chainLimit (Value.record [("type", .text "t")]).entries).outcome =
            .ok (some "t", endlessType) := apply_endlessScope _
      have methods : (Resource.methodsOf endlessScope (Resource.params (parentUri ++ uri))
          endlessType).outcome = .ok [] := rfl
      have children : (Traced.mapList (Resource.ofDeclaration endlessScope (parentUri ++ uri) depth)
          (childrenOf endlessType)).outcome = .error .tooDeep := by
        rw [child, Traced.outcome_mapList, List.mapM_cons, ih]
        rfl
      unfold Resource.ofDeclaration
      simp only [Traced.outcome_bind, applied, ok_bind, methods, children, error_bind]

/-- A resource of a type with a resource of the same type inside is expanded to no end: to no depth
does the expansion end, and to every depth it is not deep enough. -/
theorem Resource.endless :
    (¬ ∃ bound, EndsWithin endlessScope bound "" ("/a", .record [("type", .text "t")])) ∧
      ∀ depth, (Resource.ofDeclaration endlessScope "" depth
        ("/a", .record [("type", .text "t")])).outcome = .error .tooDeep := by
  obtain ⟨unbounded, tooDeep⟩ := Resource.tooDeep_endlessScope "" "/a"
  exact ⟨fun ⟨bound, ends⟩ => unbounded bound ends, tooDeep⟩

end RamlDocs
