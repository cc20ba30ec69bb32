import RamlDocs.Proofs.Definition.ResourceKeys

/-!
# References and their renaming

A resource refers to resource types in its type, to traits in its traits and in those of its
methods, and the resources below it do the same. Every other part of it refers to neither. So the
references of a value are told by where it stands (`Place`), and a renaming of declarations changes
the texts and keys at those places and nothing else (`Value.renamed`).

Renaming commutes with the way one mapping completes another, as long as no two references become
one or fall apart (`Value.renamed_completedBy`). What the expansion of a resource reads of a
mapping, it reads renamed from the renamed one.
-/

namespace RamlDocs

/-- A kind of declarations that resources refer to. -/
inductive Kind where
  | resourceType
  | trait
  deriving DecidableEq

/-- The key under which declarations of a kind stand. -/
def Kind.key : Kind → String
  | .resourceType => "resourceTypes"
  | .trait => "traits"

/-- What a part of a definition stands for. -/
inductive Place where
  /-- A definition, whose references are those of its resources. -/
  | root
  /-- A resource. -/
  | resource
  /-- A method of a resource. -/
  | method
  /-- References to declarations of a kind. -/
  | names (kind : Kind)
  /-- Anything without references. -/
  | elsewhere
  deriving DecidableEq

/-- What stands under a key. -/
def Place.below : Place → Key → Place
  | .root, k => if (resourceKey? k).isSome then .resource else .elsewhere
  | .resource, k =>
    if k = .text "type" then .names .resourceType
    else if k = .text "is" then .names .trait
    else if (httpMethod? k).isSome then .method
    else if (resourceKey? k).isSome then .resource
    else .elsewhere
  | .method, k => if k = .text "is" then .names .trait else .elsewhere
  | _, _ => .elsewhere

theorem Place.below_type : Place.resource.below (.text "type") = .names .resourceType := rfl

theorem Place.below_is : Place.resource.below (.text "is") = .names .trait := rfl

theorem Place.method_below_is : Place.method.below (.text "is") = .names .trait := rfl

/-- A kind of declarations, and the key that refers to one of them. -/
abbrev Reference := Kind × Key

/-- What a key itself refers to. -/
def Place.named : Place → Key → List Reference
  | .names kind, k => [(kind, k)]
  | _, _ => []

/-- What an item of a list of references refers to. -/
def referencesOfItem (kind : Kind) : Value → List Reference
  | .text s => [(kind, .text s)]
  | .map m => m.map fun e => (kind, e.1)
  | _ => []

mutual

/-- All that a value refers to. -/
def Value.references : Place → Value → List Reference
  | .elsewhere, _ => []
  | .names kind, .text s => [(kind, .text s)]
  | .names kind, .list vs => vs.flatMap (referencesOfItem kind)
  | place, .map m => referencesOfEntries place m
  | _, _ => []

/-- All that entries refer to. -/
def referencesOfEntries (place : Place) : List (Key × Value) → List Reference
  | [] => []
  | (k, v) :: m => place.named k ++ v.references (place.below k) ++ referencesOfEntries place m

end

/-- What the declarations of a kind are called, by what they were called. -/
abbrev Renaming := Kind → String → String

/-- A key renamed as a reference. -/
def Renaming.key (ρ : Renaming) (kind : Kind) : Key → Key
  | .text s => .text (ρ kind s)
  | k => k

/-- A key renamed if it is a reference where it stands. -/
def Place.key (ρ : Renaming) : Place → Key → Key
  | .names kind, k => ρ.key kind k
  | _, k => k

/-- An item of a list of references, renamed. -/
def Renaming.item (ρ : Renaming) (kind : Kind) : Value → Value
  | .text s => .text (ρ kind s)
  | .map m => .map (m.map fun e => (ρ.key kind e.1, e.2))
  | v => v

mutual

/-- A value with all its references renamed. -/
def Value.renamed (ρ : Renaming) : Place → Value → Value
  | .elsewhere, v => v
  | .names kind, .text s => .text (ρ kind s)
  | .names kind, .list vs => .list (vs.map (ρ.item kind))
  | place, .map m => .map (renamedEntries ρ place m)
  | _, v => v

/-- Entries with all their references renamed. -/
def renamedEntries (ρ : Renaming) (place : Place) : List (Key × Value) → Mapping
  | [] => []
  | (k, v) :: m => (place.key ρ k, v.renamed ρ (place.below k)) :: renamedEntries ρ place m

end

variable {ρ : Renaming} {place : Place} {kind : Kind} {v w : Value} {m s : Mapping}

@[simp] theorem Value.references_elsewhere (v : Value) : v.references .elsewhere = [] := by
  unfold Value.references
  rfl

@[simp] theorem Value.renamed_elsewhere (v : Value) : v.renamed ρ .elsewhere = v := by
  unfold Value.renamed
  rfl

@[simp] theorem Value.references_null (place : Place) : Value.null.references place = [] := by
  cases place <;> simp [Value.references]

@[simp] theorem Value.renamed_null (place : Place) : Value.null.renamed ρ place = .null := by
  cases place <;> simp [Value.renamed]

theorem Value.renamed_map (h : place ≠ .elsewhere) (m : Mapping) :
    (Value.map m).renamed ρ place = .map (renamedEntries ρ place m) := by
  cases place <;> simp_all [Value.renamed]

theorem Value.references_map (h : place ≠ .elsewhere) (m : Mapping) :
    (Value.map m).references place = referencesOfEntries place m := by
  cases place <;> simp_all [Value.references]

theorem renamedEntries_eq_map (m : Mapping) : renamedEntries ρ place m =
    m.map fun e => (place.key ρ e.1, e.2.renamed ρ (place.below e.1)) := by
  induction m with
  | nil => rfl
  | cons e m ih => rw [renamedEntries, ih, List.map_cons]

theorem mem_referencesOfEntries {r : Reference} : r ∈ referencesOfEntries place m ↔
    ∃ e ∈ m, r ∈ place.named e.1 ∨ r ∈ e.2.references (place.below e.1) := by
  induction m with
  | nil => simp [referencesOfEntries]
  | cons e m ih =>
    rw [referencesOfEntries, List.mem_append, List.mem_append, ih, List.exists_mem_cons_iff]

/-- Keys that are the same hold the same kind of value. -/
theorem Place.below_congr {k l : Key} (h : k.same l = true) : place.below k = place.below l := by
  have alike : ∀ name, k = .text name ↔ l = .text name := fun name => by
    rw [← Key.same_text_iff, ← Key.same_text_iff, Key.same_congr h]
  by_cases text : ∃ name, l = .text name
  · obtain ⟨name, rfl⟩ := text
    rw [(alike name).mpr rfl]
  · -- a key that is no text has no meaning anywhere
    have none : ∀ j : Key, (¬ ∃ name, j = .text name) → place.below j = .elsewhere := by
      intro j other
      cases j with
      | text name => exact absurd ⟨name, rfl⟩ other
      | _ => cases place <;> rfl
    rw [none l text, none k (by simpa [alike] using text)]

/-! ## Renaming and completing -/

theorem Value.isMap_renamed (place : Place) (v : Value) :
    (v.renamed ρ place).isMap = v.isMap := by
  cases place <;> cases v <;> simp [Value.renamed, Value.isMap]

theorem Value.renamed_ne_null (h : v ≠ .null) : v.renamed ρ place ≠ .null := by
  cases place <;> cases v <;> simp_all [Value.renamed]

/-- Completing keeps a value that is given, unless two mappings meet. -/
theorem Value.completedBy_eq_left (given : v ≠ .null) (h : v.isMap = false ∨ w.isMap = false) :
    v.completedBy w = v := by
  rcases h with flat | flat
  · exact Value.completedBy_of_isMap_eq_false given flat w
  · cases v <;> cases w <;> simp_all [Value.completedBy, Value.isMap]

section Closed

variable {P : Reference → Prop}

theorem forall_references_cons {k : Key} : (∀ r ∈ referencesOfEntries place ((k, v) :: m), P r) ↔
    (∀ r ∈ place.named k, P r) ∧ (∀ r ∈ v.references (place.below k), P r) ∧
      ∀ r ∈ referencesOfEntries place m, P r := by
  simp only [referencesOfEntries, List.mem_append, or_imp, forall_and, and_assoc]

theorem forall_references_find? (h : ∀ r ∈ referencesOfEntries place m, P r) (k : Key) :
    ∀ r ∈ ((Mapping.find? m k).getD .null).references (place.below k), P r := by
  cases found : Mapping.find? m k with
  | none => simp
  | some u =>
    obtain ⟨l, alike, old⟩ := Mapping.mem_of_find? found
    intro r mem
    rw [Option.getD_some, ← Place.below_congr alike] at mem
    exact h r (mem_referencesOfEntries.mpr ⟨_, old, .inr mem⟩)

theorem forall_references_put {k : Key} (hm : ∀ r ∈ referencesOfEntries place m, P r)
    (hk : ∀ r ∈ place.named k, P r) (hv : ∀ r ∈ v.references (place.below k), P r) :
    ∀ r ∈ referencesOfEntries place (m.put k v), P r := by
  intro r mem
  obtain ⟨e, held, refers⟩ := mem_referencesOfEntries.mp mem
  rcases Mapping.mem_put held with old | ⟨own, same, value⟩
  · exact hm r (mem_referencesOfEntries.mpr ⟨e, old, refers⟩)
  rcases refers with named | inside
  · rcases own with rfl | ⟨u, old⟩
    · exact hk r named
    · exact hm r (mem_referencesOfEntries.mpr ⟨_, old, .inl named⟩)
  · rw [value, Place.below_congr same] at inside
    exact hv r inside

mutual

/-- A value that is completed refers to nothing that neither of the two refers to. -/
theorem Value.forall_references_completedBy :
    ∀ (w : Value) {v : Value} {place : Place}, (∀ r ∈ v.references place, P r) →
      (∀ r ∈ w.references place, P r) → ∀ r ∈ (v.completedBy w).references place, P r
  | w, v, place, hv, hw => by
    by_cases outside : place = .elsewhere
    · simp [outside]
    cases v with
    | null => simpa [Value.completedBy] using hw
    | map m =>
      cases w with
      | map s =>
        rw [Value.references_map outside] at hv hw
        rw [Value.completedBy, Value.references_map outside]
        exact forall_references_merge s hv hw
      | _ => exact hv
    | _ =>
      rw [Value.completedBy_of_isMap_eq_false (by simp) rfl]
      exact hv

theorem forall_references_merge :
    ∀ (s : List (Key × Value)) {m : Mapping} {place : Place},
      (∀ r ∈ referencesOfEntries place m, P r) → (∀ r ∈ referencesOfEntries place s, P r) →
        ∀ r ∈ referencesOfEntries place (Mapping.merge m s), P r
  | [], _, _, hm, _ => hm
  | (k, w) :: s, m, place, hm, hs => by
    obtain ⟨named, inside, rest⟩ := forall_references_cons.mp hs
    rw [Mapping.merge_cons]
    refine forall_references_merge s (forall_references_put hm named ?_) rest
    exact Value.forall_references_completedBy w (forall_references_find? hm k) inside

end

end Closed

/-- Among the references that are allowed, those that are the same stay so and no others become
so, and each is read as the new name of what it was read as. -/
structure Renaming.Faithful (ρ : Renaming) (allowed : Reference → Prop) : Prop where
  same : ∀ kind k l, allowed (kind, k) → allowed (kind, l) →
    (ρ.key kind k).same (ρ.key kind l) = k.same l
  asText : ∀ kind k, allowed (kind, k) → (ρ.key kind k).asText = k.asText.map (ρ kind)

section Faithful

variable {allowed : Reference → Prop}

theorem Renaming.Faithful.apart (h : ρ.Faithful allowed) {k : Key}
    (hm : ∀ r ∈ referencesOfEntries place m, allowed r) (hk : ∀ r ∈ place.named k, allowed r) :
    ∀ e ∈ m, (place.key ρ e.1).same (place.key ρ k) = e.1.same k := by
  intro e mem
  have own : ∀ r ∈ place.named e.1, allowed r := fun r named =>
    hm r (mem_referencesOfEntries.mpr ⟨e, mem, .inl named⟩)
  cases place with
  | names kind => exact h.same kind e.1 k (own _ List.mem_cons_self) (hk _ List.mem_cons_self)
  | _ => rfl

/-- A key finds the same renamed. -/
theorem find?_renamedEntries {k : Key}
    (apart : ∀ e ∈ m, (place.key ρ e.1).same (place.key ρ k) = e.1.same k) :
    Mapping.find? (renamedEntries ρ place m) (place.key ρ k) =
      (Mapping.find? m k).map fun v => v.renamed ρ (place.below k) := by
  induction m with
  | nil => rfl
  | cons e m ih =>
    obtain ⟨l, w⟩ := e
    obtain ⟨alike, rest⟩ := List.forall_mem_cons.mp apart
    rw [renamedEntries, Mapping.find?_cons, Mapping.find?_cons, alike, ih rest]
    by_cases same : l.same k = true
    · rw [if_pos same, if_pos same, Place.below_congr same, Option.map_some]
    · rw [if_neg same, if_neg same]

theorem renamedEntries_put {k : Key}
    (apart : ∀ e ∈ m, (place.key ρ e.1).same (place.key ρ k) = e.1.same k) (v : Value) :
    renamedEntries ρ place (m.put k v) =
      (renamedEntries ρ place m).put (place.key ρ k) (v.renamed ρ (place.below k)) := by
  induction m with
  | nil => rfl
  | cons e m ih =>
    obtain ⟨l, w⟩ := e
    obtain ⟨alike, rest⟩ := List.forall_mem_cons.mp apart
    rw [Mapping.put, renamedEntries, Mapping.put, alike]
    by_cases same : l.same k = true
    · rw [if_pos same, if_pos same, renamedEntries, Place.below_congr same]
    · rw [if_neg same, if_neg same, renamedEntries, ih rest]

mutual

/-- Renaming commutes with completing. -/
theorem Value.renamed_completedBy (faithful : ρ.Faithful allowed) :
    ∀ (w : Value) {v : Value} {place : Place}, (∀ r ∈ v.references place, allowed r) →
      (∀ r ∈ w.references place, allowed r) →
        (v.completedBy w).renamed ρ place = (v.renamed ρ place).completedBy (w.renamed ρ place)
  | w, v, place, hv, hw => by
    by_cases outside : place = .elsewhere
    · simp [outside]
    cases v with
    | null => simp [Value.completedBy]
    | map m =>
      cases w with
      | map s =>
        rw [Value.references_map outside] at hv hw
        rw [Value.completedBy, Value.renamed_map outside, Value.renamed_map outside,
          Value.renamed_map outside, Value.completedBy, renamedEntries_merge faithful s hv hw]
      | _ =>
        rw [Value.completedBy_eq_left (by simp) (.inr rfl), Value.completedBy_eq_left]
        · exact Value.renamed_ne_null (by simp)
        · exact .inr (Value.isMap_renamed place _)
    | _ =>
      rw [Value.completedBy_eq_left (by simp) (.inl rfl), Value.completedBy_eq_left]
      · exact Value.renamed_ne_null (by simp)
      · exact .inl (Value.isMap_renamed place _)

theorem renamedEntries_merge (faithful : ρ.Faithful allowed) :
    ∀ (s : List (Key × Value)) {m : Mapping} {place : Place},
      (∀ r ∈ referencesOfEntries place m, allowed r) →
        (∀ r ∈ referencesOfEntries place s, allowed r) →
          renamedEntries ρ place (Mapping.merge m s) =
            Mapping.merge (renamedEntries ρ place m) (renamedEntries ρ place s)
  | [], _, _, _, _ => rfl
  | (k, w) :: s, m, place, hm, hs => by
    obtain ⟨named, inside, rest⟩ := forall_references_cons.mp hs
    have own := forall_references_find? hm k
    have apart := faithful.apart hm named
    have held : (Mapping.find? (renamedEntries ρ place m) (place.key ρ k)).getD .null =
        ((Mapping.find? m k).getD .null).renamed ρ (place.below k) := by
      rw [find?_renamedEntries apart]
      cases Mapping.find? m k <;> simp
    have completed := Value.renamed_completedBy faithful w own inside
    have grown := forall_references_put hm named
      (Value.forall_references_completedBy w own inside)
    rw [Mapping.merge_cons, renamedEntries_merge faithful s grown rest,
      renamedEntries_put apart, completed, renamedEntries, Mapping.merge_cons, held]

end

/-! ## References as they are read -/

theorem Value.references_names (v : Value) :
    v.references (.names kind) = (Facet.asList v).flatMap (referencesOfItem kind) := by
  cases v with
  | map m =>
    rw [Value.references_map (by simp), Facet.asList, List.flatMap_singleton, referencesOfItem]
    · induction m with
      | nil => rfl
      | cons e m ih => simp [referencesOfEntries, Place.named, Place.below, ih]
    all_goals simp
  | _ => simp [Value.references, Facet.asList, referencesOfItem]

theorem asList_renamed (v : Value) :
    Facet.asList (v.renamed ρ (.names kind)) = (Facet.asList v).map (ρ.item kind) := by
  cases v with
  | map m =>
    rw [Value.renamed_map (by simp), renamedEntries_eq_map]
    simp [Facet.asList, Renaming.item, Place.key, Place.below]
  | _ => simp [Value.renamed, Facet.asList, Renaming.item]

/-- A reference with its parameters, renamed. -/
def Renaming.applied (ρ : Renaming) (kind : Kind) (r : String × Mapping) : String × Mapping :=
  (ρ kind r.1, r.2)

theorem itemReferences_item (faithful : ρ.Faithful allowed)
    (h : ∀ r ∈ referencesOfItem kind v, allowed r) :
    Facet.itemReferences (ρ.item kind v) =
      (Facet.itemReferences v).map (List.map (ρ.applied kind)) := by
  cases v with
  | map m =>
    refine mapM_map_eq_map fun e mem => ?_
    rw [faithful.asText kind e.1 (h _ (List.mem_map_of_mem mem))]
    cases e.1.asText <;> rfl
  | _ => rfl

theorem references_renamed (faithful : ρ.Faithful allowed)
    (h : ∀ r ∈ v.references (.names kind), allowed r) :
    Facet.references (v.renamed ρ (.names kind)) =
      (Facet.references v).map (List.map (ρ.applied kind)) := by
  rw [Value.references_names] at h
  have items : ((Facet.asList v).map (ρ.item kind)).mapM Facet.itemReferences =
      ((Facet.asList v).mapM Facet.itemReferences).map (List.map (List.map (ρ.applied kind))) :=
    mapM_map_eq_map fun item mem => itemReferences_item faithful fun r refers =>
      h r (List.mem_flatMap.mpr ⟨item, mem, refers⟩)
  unfold Facet.references
  rw [asList_renamed, items]
  cases (Facet.asList v).mapM Facet.itemReferences <;> simp [Except.map, List.map_flatten]

end Faithful

/-! ## Mappings as they are read -/

theorem Value.entries_renamed (h : ∀ kind, place ≠ .names kind) (v : Value) :
    (v.renamed ρ place).entries = renamedEntries ρ place v.entries := by
  cases place with
  | names kind => exact absurd rfl (h kind)
  | elsewhere =>
    rw [Value.renamed_elsewhere, renamedEntries_eq_map]
    simp [Place.key, Place.below]
  | _ => cases v <;> simp [Value.renamed, Value.entries, renamedEntries]

theorem Value.references_entries (h : place = .resource ∨ place = .method) (v : Value) :
    v.references place = referencesOfEntries place v.entries := by
  rcases h with rfl | rfl <;> cases v <;>
    simp [Value.references, Value.entries, referencesOfEntries]

theorem get_renamedEntries (h : ∀ kind, place ≠ .names kind) {name : String} {inner : Place}
    (below : place.below (.text name) = inner) (m : Mapping) :
    Mapping.get (renamedEntries ρ place m) name = (m.get name).renamed ρ inner := by
  have keys : ∀ k, place.key ρ k = k := fun k => by
    cases place with
    | names kind => exact absurd rfl (h kind)
    | _ => rfl
  have found : Mapping.find? (renamedEntries ρ place m) (place.key ρ (.text name)) = _ :=
    find?_renamedEntries fun e _ => by rw [keys, keys]
  rw [keys, below] at found
  unfold Mapping.get Mapping.get?
  rw [found]
  cases m.find? (.text name) <;> simp

theorem renamedItem_eq_self (h : ∀ r ∈ referencesOfItem kind v, ρ.key r.1 r.2 = r.2) :
    ρ.item kind v = v := by
  cases v with
  | text s => simpa [Renaming.item, Renaming.key] using h (kind, .text s) List.mem_cons_self
  | map m =>
    have each : m.map (fun e => (ρ.key kind e.1, e.2)) = m.map id :=
      List.map_congr_left fun e mem => by rw [h _ (List.mem_map_of_mem mem), id]
    rw [Renaming.item, each, List.map_id]
  | _ => rfl

mutual

/-- Renaming changes nothing where no reference is renamed. -/
theorem Value.renamed_eq_self :
    ∀ (v : Value) {place : Place}, (∀ r ∈ v.references place, ρ.key r.1 r.2 = r.2) →
      v.renamed ρ place = v
  | v, place, h => by
    by_cases outside : place = .elsewhere
    · rw [outside, Value.renamed_elsewhere]
    cases v with
    | map m =>
      rw [Value.references_map outside] at h
      rw [Value.renamed_map outside, renamedEntries_eq_self m h]
    | text s =>
      cases place with
      | names kind =>
        have same := h (kind, .text s) List.mem_cons_self
        simpa [Value.renamed, Renaming.key] using same
      | _ => simp [Value.renamed]
    | list vs =>
      cases place with
      | names kind =>
        have items : vs.map (ρ.item kind) = vs.map id :=
          List.map_congr_left fun item mem => renamedItem_eq_self fun r refers =>
            h r (List.mem_flatMap.mpr ⟨item, mem, refers⟩)
        rw [Value.renamed, items, List.map_id]
      | _ => simp [Value.renamed]
    | _ => cases place <;> simp [Value.renamed]

theorem renamedEntries_eq_self :
    ∀ (m : List (Key × Value)) {place : Place},
      (∀ r ∈ referencesOfEntries place m, ρ.key r.1 r.2 = r.2) → renamedEntries ρ place m = m
  | [], _, _ => rfl
  | (k, v) :: m, place, h => by
    obtain ⟨named, inside, rest⟩ := forall_references_cons.mp h
    have key : place.key ρ k = k := by
      cases place with
      | names kind => exact named _ List.mem_cons_self
      | _ => rfl
    rw [renamedEntries, key, Value.renamed_eq_self v inside, renamedEntries_eq_self m rest]

end

theorem Place.below_of_httpMethod? {k : Key} {name : String} (h : httpMethod? k = some name) :
    Place.resource.below k = .method := by
  have facets : ∀ facet ∈ ["type", "is"], facet ∉ httpMethods := by decide
  obtain ⟨rfl, known⟩ := httpMethod?_eq_some_iff.mp h
  have other : ∀ facet ∈ ["type", "is"], Key.text name ≠ .text facet := by
    rintro facet mem same
    cases same
    exact facets name mem known
  simp [Place.below, other, h]

theorem Place.below_of_resourceKey? {k : Key} {uri : String} (h : resourceKey? k = some uri) :
    Place.resource.below k = .resource := by
  have facets : ∀ facet ∈ ["type", "is"], facet.toList.head? ≠ some '/' := by decide
  have other : ∀ facet ∈ ["type", "is"], k ≠ .text facet := by
    rintro facet mem rfl
    rw [resourceKey?_text (facets facet mem)] at h
    cases h
  have unnamed : httpMethod? k = none := by
    rw [Option.eq_none_iff_forall_ne_some]
    intro name named
    rw [resourceKey?_of_httpMethod? named] at h
    cases h
  simp [Place.below, other, unnamed, h]

theorem Place.root_below_of_resourceKey? {k : Key} {uri : String} (h : resourceKey? k = some uri) :
    Place.root.below k = .resource := by
  simp [Place.below, h]

/-- Only methods, facets for references and resources hold references. -/
theorem Place.below_text {name : String} (plain : name ∉ "type" :: "is" :: httpMethods)
    (slashless : name.toList.head? ≠ some '/') :
    Place.resource.below (.text name) = .elsewhere := by
  simp only [List.mem_cons, not_or] at plain
  have unnamed : httpMethod? (.text name) = none := by simp [httpMethod?, plain]
  simp [Place.below, plain, unnamed, resourceKey?_text slashless]

theorem childrenOf_renamedEntries (h : place = .root ∨ place = .resource) (m : Mapping) :
    Resource.childrenOf (renamedEntries ρ place m) =
      (Resource.childrenOf m).map fun c => (c.1, c.2.renamed ρ .resource) := by
  have key : ∀ k, place.key ρ k = k := by rcases h with rfl | rfl <;> exact fun _ => rfl
  have below : ∀ k uri, resourceKey? k = some uri → place.below k = .resource := by
    rcases h with rfl | rfl
    · exact fun _ _ => Place.root_below_of_resourceKey?
    · exact fun _ _ => Place.below_of_resourceKey?
  unfold Resource.childrenOf
  rw [renamedEntries_eq_map, List.filterMap_map, List.map_filterMap]
  refine List.filterMap_congr fun e _ => ?_
  cases resource : resourceKey? e.1 with
  | none => simp [key, resource]
  | some uri => simp [key, resource, below e.1 uri resource]

theorem methods_renamedEntries (m : Mapping) :
    (renamedEntries ρ .resource m).filterMap (fun e => (httpMethod? e.1).map fun name =>
        (name, e.2)) =
      (m.filterMap fun e => (httpMethod? e.1).map fun name => (name, e.2)).map
        fun e => (e.1, e.2.renamed ρ .method) := by
  rw [renamedEntries_eq_map, List.filterMap_map, List.map_filterMap]
  refine List.filterMap_congr fun e _ => ?_
  cases key : httpMethod? e.1 with
  | none => simp [Place.key, key]
  | some name => simp [Place.key, key, Place.below_of_httpMethod? key]

theorem annotations_renamedEntries (scope : Scope) (m : Mapping) :
    scope.annotations (renamedEntries ρ .resource m) = scope.annotations m := by
  have below : ∀ k name, Scope.annotationName? k = some name →
      Place.resource.below k = .elsewhere := by
    intro k name key
    unfold Scope.annotationName? at key
    split at key
    next s =>
      split at key
      next cs parenthesis =>
        have plain : ∀ facet ∈ "type" :: "is" :: httpMethods, facet.toList.head? ≠ some '(' := by
          decide
        refine Place.below_text (fun mem => plain s mem ?_) ?_
        · rw [parenthesis, List.head?_cons]
        · rw [parenthesis, List.head?_cons]
          decide
      next => cases key
    next => cases key
  unfold Scope.annotations
  rw [renamedEntries_eq_map, List.filterMap_map]
  refine List.filterMap_congr fun e _ => ?_
  cases key : Scope.annotationName? e.1 with
  | none => simp [Place.key, key]
  | some name => simp [Place.key, key, below e.1 name key]

end RamlDocs
