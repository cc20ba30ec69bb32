import Mathlib.Data.List.Nodup
import RamlDocs.Proofs.Value.Priority
import RamlDocs.Proofs.Value.Vocabulary

/-!
# Mappings of several sources

Sources that complete one another in turn come to one mapping, which is written down here at once
(`Mapping.completed_eq_map`): for each key that a source has, in order of first occurrence, the
value that prevails. What stands under one key of it is again made of sources if it is a mapping:
of the mappings under this key, as far as they count (`Mapping.under`).
-/

namespace RamlDocs

/-- The mappings among the values of one key that are completed one by the next: none if the first
value that is not null is no mapping. -/
def Value.maps (vs : List Value) : List Mapping :=
  match vs.dropWhile Value.isNull with
  | .map m :: later => m :: later.filterMap Value.map?
  | _ => []

namespace Mapping

/-- Several mappings, the first completed by the others in turn. -/
def completed : List Mapping → Mapping
  | [] => []
  | m :: ts => ts.foldl merge m

/-- The keys of several mappings, in order of first occurrence and each once. -/
def keysOf (ts : List Mapping) : List Key := (ts.flatMap keys).eraseDupsBy Key.same

/-- The value of a key in several mappings. -/
def valueOf (ts : List Mapping) (k : Key) : Value := Value.prevailing (ts.filterMap (find? · k))

/-- The mappings under a text key of several mappings. -/
def under (ts : List Mapping) (name : String) : List Mapping :=
  Value.maps (ts.filterMap (get? · name))

variable {ts : List Mapping} {V : Vocabulary}

/-! ## One mapping -/

theorem distinct_completed (distinct : ∀ t ∈ ts, t.Distinct) : (completed ts).Distinct := by
  cases ts with
  | nil => exact List.Pairwise.nil
  | cons m ts => exact distinct_foldl_merge (distinct m List.mem_cons_self) ts

theorem keys_completed (distinct : ∀ t ∈ ts, t.Distinct) : (completed ts).keys = keysOf ts := by
  cases ts with
  | nil => rfl
  | cons m ts => exact keys_foldl_merge (distinct m List.mem_cons_self) ts

theorem find?_completed (distinct : ∀ t ∈ ts, t.Distinct) (k : Key) :
    (find? (completed ts) k).getD .null = valueOf ts k := by
  cases ts with
  | nil => rfl
  | cons m ts =>
    obtain ⟨-, rest⟩ := List.forall_mem_cons.mp distinct
    rw [completed, find?_foldl_merge rest, valueOf]
    cases (m :: ts).filterMap (find? · k) with
    | nil => rfl
    | cons v vs => exact Value.foldl_completedBy v vs

/-- A mapping without repeated keys is known by what it holds under its keys. -/
theorem Distinct.eq_map_keys {m : Mapping} (h : m.Distinct) :
    m = m.keys.map fun k => (k, (find? m k).getD .null) := by
  have own : ∀ e ∈ m, (e.1, (find? m e.1).getD .null) = e := by
    rintro ⟨k, v⟩ mem
    rw [h.find?_of_mem mem, Option.getD_some]
  rw [keys, List.map_map]
  exact (List.map_congr_left own).trans (List.map_id m) |>.symm

/-- Mappings that complete one another have each key once, with the value that prevails. -/
theorem completed_eq_map (distinct : ∀ t ∈ ts, t.Distinct) :
    completed ts = (keysOf ts).map fun k => (k, valueOf ts k) := by
  rw [(distinct_completed distinct).eq_map_keys, keys_completed distinct]
  exact List.map_congr_left fun k _ => congrArg (Prod.mk k) (find?_completed distinct k)

theorem nodup_keysOf (distinct : ∀ t ∈ ts, t.Distinct) : (keysOf ts).Nodup := by
  rw [← keys_completed distinct]
  refine List.pairwise_map.mpr ((distinct_completed distinct).imp fun {e f} apart same => ?_)
  rw [same, Key.same_self] at apart
  cases apart

/-- Different texts are written differently. -/
theorem nodup_display_of_texts (distinct : ∀ t ∈ ts, t.Distinct)
    (texts : ∀ k ∈ keysOf ts, ∃ s, k = .text s) : ((keysOf ts).map Key.display).Nodup := by
  refine (List.nodup_map_iff_inj_on (nodup_keysOf distinct)).mpr fun k hk l hl alike => ?_
  obtain ⟨s, rfl⟩ := texts k hk
  obtain ⟨t, rfl⟩ := texts l hl
  exact congrArg Key.text alike

/-! ## Under a key -/

theorem entries_prevailing (vs : List Value) :
    (Value.prevailing vs).entries = completed (Value.maps vs) := by
  unfold Value.prevailing Value.maps
  cases vs.dropWhile Value.isNull with
  | nil => rfl
  | cons v later => cases v <;> rfl

theorem mem_of_mem_maps {vs : List Value} {m : Mapping} (h : m ∈ Value.maps vs) :
    .map m ∈ vs := by
  have kept : vs.dropWhile Value.isNull ⊆ vs := (List.dropWhile_sublist _).subset
  unfold Value.maps at h
  split at h
  next first later left =>
    rw [left] at kept
    rcases List.mem_cons.mp h with rfl | mem
    · exact kept List.mem_cons_self
    · obtain ⟨v, inside, isMap⟩ := List.mem_filterMap.mp mem
      cases v with
      | map n =>
        cases isMap
        exact kept (List.mem_cons_of_mem _ inside)
      | _ => cases isMap
  next => cases h

theorem within_under (within : ∀ t ∈ ts, entriesWithin V t = true) (name : String) :
    ∀ t ∈ under ts name, entriesWithin V t = true := by
  intro t mem
  obtain ⟨source, inside, found⟩ := List.mem_filterMap.mp (mem_of_mem_maps mem)
  exact Value.within_of_find? (within source inside) found

/-- What stands under a key of mappings that complete one another. -/
theorem entries_get_completed (within : ∀ t ∈ ts, entriesWithin V t = true) (name : String) :
    ((completed ts).get name).entries =
      (keysOf (under ts name)).map fun k => (k, valueOf (under ts name) k) := by
  have value : (completed ts).get name = valueOf ts (.text name) :=
    find?_completed (fun t mem => distinct_of_within (within t mem)) (.text name)
  rw [value, valueOf, entries_prevailing]
  exact completed_eq_map fun t mem => distinct_of_within (within_under within name t mem)

end Mapping

end RamlDocs
