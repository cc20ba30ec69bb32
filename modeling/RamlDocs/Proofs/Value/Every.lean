import RamlDocs.Proofs.Value.Vocabulary

/-!
# What holds everywhere in a value

`Value.every` asks something of all texts of a value and of all its mappings, at any depth of lists
and mappings. These are the places where placeholders are looked for; inside of tuples and sets
there are none.
-/

namespace RamlDocs

mutual

/-- Whether all texts within a value, its keys apart, and all its mappings satisfy a test. -/
def Value.every (text : String → Bool) (map : Mapping → Bool) : Value → Bool
  | .text s => text s
  | .list vs => everyItem text map vs
  | .map m => map m && everyEntry text map m
  | _ => true

/-- Whether this holds everywhere in all items. -/
def everyItem (text : String → Bool) (map : Mapping → Bool) : List Value → Bool
  | [] => true
  | v :: vs => v.every text map && everyItem text map vs

/-- Whether this holds everywhere in the values of all entries. -/
def everyEntry (text : String → Bool) (map : Mapping → Bool) : List (Key × Value) → Bool
  | [] => true
  | (_, v) :: m => v.every text map && everyEntry text map m

end

variable {text : String → Bool} {map : Mapping → Bool}

theorem everyItem_iff {vs : List Value} :
    everyItem text map vs = true ↔ ∀ v ∈ vs, v.every text map = true := by
  induction vs with
  | nil => simp [everyItem]
  | cons v vs ih => simp [everyItem, ih]

theorem everyEntry_iff {m : Mapping} :
    everyEntry text map m = true ↔ ∀ e ∈ m, e.2.every text map = true := by
  induction m with
  | nil => simp [everyEntry]
  | cons e m ih => simp [everyEntry, ih]

theorem Value.every_map_iff {m : Mapping} :
    (Value.map m).every text map = true ↔
      map m = true ∧ ∀ e ∈ m, e.2.every text map = true := by
  rw [Value.every, Bool.and_eq_true, everyEntry_iff]

theorem Value.every_get {v : Value} (h : v.every text map = true) (name : String) :
    (v.entries.get name).every text map = true := by
  cases v with
  | map m =>
    simp only [Value.entries, Mapping.get, Mapping.get?]
    cases found : Mapping.find? m (.text name) with
    | none => rfl
    | some w =>
      obtain ⟨l, -, mem⟩ := Mapping.mem_of_find? found
      exact (Value.every_map_iff.mp h).2 _ mem
  | _ => rfl

/-- A test that all texts pass and one that all mappings pass hold everywhere. -/
theorem Value.every_of_forall (texts : ∀ s, text s = true) (maps : ∀ m, map m = true)
    (v : Value) : v.every text map = true := by
  refine Value.induction (P := fun v => v.every text map = true) ?_ ?_ ?_ v
  · intro v leaf
    cases v with
    | text s => exact texts s
    | list vs => cases leaf
    | map m => cases leaf
    | _ => rfl
  · intro vs all
    exact everyItem_iff.mpr all
  · intro m all
    exact Value.every_map_iff.mpr ⟨maps m, all⟩

end RamlDocs
