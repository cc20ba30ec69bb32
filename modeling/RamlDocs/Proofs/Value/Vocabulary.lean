import RamlDocs.Definition.Facet
import RamlDocs.Proofs.Value.Mapping
import RamlDocs.Proofs.Value.Merge

/-!
# Values over a vocabulary

Which keys and which scalars may occur in a value, at any depth, is given by a `Vocabulary`; the
mappings of such a value have no key twice. Every operation on mappings stays within a vocabulary:
to put and to overlay entries, and to complete one value by another (`Value.within_completedBy`).
-/

namespace RamlDocs

/-- The keys and the scalars that may occur in a value. Null always may. -/
structure Vocabulary where
  key : Key → Bool
  scalar : Value → Bool
  null : scalar .null = true

/-- Whether a value is no list and no mapping. -/
def Value.isLeaf : Value → Bool
  | .list _ => false
  | .map _ => false
  | _ => true

mutual

/-- What holds of a list or a mapping if it holds of its parts, and of everything else, holds of all
values. -/
theorem Value.induction {P : Value → Prop} (leaf : ∀ v, v.isLeaf = true → P v)
    (list : ∀ vs, (∀ v ∈ vs, P v) → P (.list vs))
    (map : ∀ m : Mapping, (∀ e ∈ m, P e.2) → P (.map m)) : ∀ v : Value, P v
  | .list vs => list vs (forall_items leaf list map vs)
  | .map m => map m (forall_entries leaf list map m)
  | .null => leaf _ rfl
  | .bool _ => leaf _ rfl
  | .int _ => leaf _ rfl
  | .float _ => leaf _ rfl
  | .text _ => leaf _ rfl
  | .bytes _ => leaf _ rfl
  | .moment _ => leaf _ rfl
  | .tuple _ => leaf _ rfl
  | .set _ => leaf _ rfl

theorem forall_items {P : Value → Prop} (leaf : ∀ v, v.isLeaf = true → P v)
    (list : ∀ vs, (∀ v ∈ vs, P v) → P (.list vs))
    (map : ∀ m : Mapping, (∀ e ∈ m, P e.2) → P (.map m)) : ∀ vs : List Value, ∀ v ∈ vs, P v
  | [] => by simp
  | v :: vs => List.forall_mem_cons.mpr
      ⟨Value.induction leaf list map v, forall_items leaf list map vs⟩

theorem forall_entries {P : Value → Prop} (leaf : ∀ v, v.isLeaf = true → P v)
    (list : ∀ vs, (∀ v ∈ vs, P v) → P (.list vs))
    (map : ∀ m : Mapping, (∀ e ∈ m, P e.2) → P (.map m)) :
    ∀ m : List (Key × Value), ∀ e ∈ m, P e.2
  | [] => by simp
  | (_, v) :: m => List.forall_mem_cons.mpr
      ⟨Value.induction leaf list map v, forall_entries leaf list map m⟩

end

mutual

/-- Whether a value is made of lists, mappings without repeated keys and scalars of the
vocabulary. -/
def Value.within (V : Vocabulary) : Value → Bool
  | .list vs => itemsWithin V vs
  | .map m => entriesWithin V m
  | v => V.scalar v

/-- Whether all items are within the vocabulary. -/
def itemsWithin (V : Vocabulary) : List Value → Bool
  | [] => true
  | v :: vs => v.within V && itemsWithin V vs

/-- Whether all entries are within the vocabulary and no key comes twice. -/
def entriesWithin (V : Vocabulary) : List (Key × Value) → Bool
  | [] => true
  | (k, v) :: m => V.key k && v.within V && m.all (fun e => !k.same e.1) && entriesWithin V m

end

/-! ## Parts of values within a vocabulary -/

variable {V : Vocabulary} {m n : Mapping} {v w : Value} {k : Key}

theorem itemsWithin_iff {vs : List Value} :
    itemsWithin V vs = true ↔ ∀ v ∈ vs, v.within V = true := by
  induction vs with
  | nil => simp [itemsWithin]
  | cons v vs ih => simp [itemsWithin, ih]

theorem entriesWithin_iff :
    entriesWithin V m = true ↔
      m.Distinct ∧ ∀ e ∈ m, V.key e.1 = true ∧ e.2.within V = true := by
  induction m with
  | nil => simp [entriesWithin, Mapping.Distinct]
  | cons e m ih =>
    obtain ⟨k, v⟩ := e
    rw [entriesWithin, Mapping.Distinct, List.pairwise_cons, List.forall_mem_cons]
    simp only [Bool.and_eq_true, List.all_eq_true, Bool.not_eq_true', ih]
    constructor
    · rintro ⟨⟨own, new⟩, rest, all⟩
      exact ⟨⟨new, rest⟩, own, all⟩
    · rintro ⟨⟨new, rest⟩, own, all⟩
      exact ⟨⟨own, new⟩, rest, all⟩

theorem distinct_of_within (h : entriesWithin V m = true) : m.Distinct :=
  (entriesWithin_iff.mp h).1

theorem Value.within_of_find? (h : entriesWithin V m = true) (found : m.find? k = some v) :
    v.within V = true := by
  obtain ⟨l, -, mem⟩ := Mapping.mem_of_find? found
  exact ((entriesWithin_iff.mp h).2 _ mem).2

theorem Value.within_null : Value.null.within V = true := V.null

theorem Value.within_get (h : entriesWithin V m = true) (name : String) :
    (m.get name).within V = true := by
  unfold Mapping.get
  cases found : m.get? name with
  | none => exact Value.within_null
  | some v => exact Value.within_of_find? h found

theorem Value.within_entries (h : v.within V = true) : entriesWithin V v.entries = true := by
  cases v with
  | map m => exact h
  | _ => rfl

theorem Value.within_of_mem_items (h : v.within V = true) (mem : w ∈ v.items) :
    w.within V = true := by
  cases v with
  | list vs => exact itemsWithin_iff.mp h w mem
  | _ => cases mem

theorem Value.within_of_mem_asList (h : v.within V = true) (mem : w ∈ Facet.asList v) :
    w.within V = true := by
  cases v with
  | null => cases mem
  | list vs => exact itemsWithin_iff.mp h w mem
  | _ =>
    rw [List.mem_singleton.mp mem]
    exact h

/-- What holds of the scalars of a vocabulary, and of a list or mapping if it holds of its parts,
holds of all values within the vocabulary. -/
theorem Value.within_induction {P : Value → Prop}
    (scalar : ∀ v, v.isLeaf = true → V.scalar v = true → P v)
    (list : ∀ vs, (∀ v ∈ vs, P v) → P (.list vs))
    (map : ∀ m, entriesWithin V m = true → (∀ e ∈ m, P e.2) → P (.map m)) (v : Value)
    (h : v.within V = true) : P v := by
  refine Value.induction (P := fun v => v.within V = true → P v) ?_ ?_ ?_ v h
  · intro v leaf h
    cases v with
    | list vs => cases leaf
    | map m => cases leaf
    | _ => exact scalar _ rfl h
  · exact fun vs all h => list vs fun v mem => all v mem (itemsWithin_iff.mp h v mem)
  · intro m all h
    exact map m h fun e mem => all e mem ((entriesWithin_iff.mp h).2 e mem).2

/-- A value within a vocabulary is within every one that has at least its keys and scalars. -/
theorem Value.within_mono {W : Vocabulary} (keys : ∀ k, V.key k = true → W.key k = true)
    (scalars : ∀ v, V.scalar v = true → W.scalar v = true) {v : Value}
    (h : v.within V = true) : v.within W = true := by
  refine Value.within_induction (P := fun v => v.within W = true) ?_ ?_ ?_ v h
  · intro v leaf scalar
    cases v with
    | list vs => cases leaf
    | map m => cases leaf
    | _ => exact scalars _ scalar
  · exact fun vs all => itemsWithin_iff.mpr all
  · intro m within all
    obtain ⟨distinct, own⟩ := entriesWithin_iff.mp within
    exact entriesWithin_iff.mpr ⟨distinct, fun e mem => ⟨keys e.1 (own e mem).1, all e mem⟩⟩

/-! ## Operations within a vocabulary -/

theorem entriesWithin_sublist (sub : List.Sublist m n) (h : entriesWithin V n = true) :
    entriesWithin V m = true := by
  obtain ⟨distinct, all⟩ := entriesWithin_iff.mp h
  exact entriesWithin_iff.mpr ⟨distinct.sublist sub, fun e mem => all e (sub.subset mem)⟩

theorem entriesWithin_put (h : entriesWithin V m = true) (key : V.key k = true)
    (value : v.within V = true) : entriesWithin V (m.put k v) = true := by
  obtain ⟨distinct, all⟩ := entriesWithin_iff.mp h
  refine entriesWithin_iff.mpr ⟨distinct.put k v, ?_⟩
  rintro ⟨l, w⟩ mem
  rcases Mapping.mem_put mem with old | ⟨rfl | ⟨u, held⟩, -, rfl⟩
  · exact all _ old
  · exact ⟨key, value⟩
  · exact ⟨(all _ held).1, value⟩

/-- Entries that are put over others need not have different keys. -/
theorem entriesWithin_overlay_of_forall (hm : entriesWithin V m = true)
    (all : ∀ e ∈ n, V.key e.1 = true ∧ e.2.within V = true) :
    entriesWithin V (m.overlay n) = true := by
  unfold Mapping.overlay
  induction n generalizing m with
  | nil => exact hm
  | cons e n ih =>
    obtain ⟨own, rest⟩ := List.forall_mem_cons.mp all
    exact ih (entriesWithin_put hm own.1 own.2) rest

theorem entriesWithin_overlay (hm : entriesWithin V m = true) (hn : entriesWithin V n = true) :
    entriesWithin V (m.overlay n) = true :=
  entriesWithin_overlay_of_forall hm (entriesWithin_iff.mp hn).2

mutual

theorem Value.within_completedBy :
    ∀ (w : Value) {v : Value}, v.within V = true → w.within V = true →
      (v.completedBy w).within V = true
  | w, v, hv, hw => by
    cases v with
    | null => simpa [Value.completedBy] using hw
    | map m =>
      cases w with
      | map s => exact entriesWithin_merge s hv hw
      | _ => exact hv
    | _ => rwa [Value.completedBy_of_isMap_eq_false (by simp) rfl]

theorem entriesWithin_merge :
    ∀ (s : List (Key × Value)) {m : Mapping}, entriesWithin V m = true →
      entriesWithin V s = true → entriesWithin V (Mapping.merge m s) = true
  | [], _, hm, _ => hm
  | (k, w) :: s, m, hm, hs => by
    rw [Mapping.merge_cons]
    obtain ⟨distinct, all⟩ := entriesWithin_iff.mp hs
    obtain ⟨⟨key, value⟩, rest⟩ := List.forall_mem_cons.mp all
    have held : ((m.find? k).getD .null).within V = true := by
      cases found : m.find? k with
      | none => exact Value.within_null
      | some v => exact Value.within_of_find? hm found
    refine entriesWithin_merge s ?_ ?_
    · exact entriesWithin_put hm key (Value.within_completedBy w held value)
    · exact entriesWithin_iff.mpr ⟨(List.pairwise_cons.mp distinct).2, rest⟩

end

end RamlDocs
