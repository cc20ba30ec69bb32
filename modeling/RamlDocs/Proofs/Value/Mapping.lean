import RamlDocs.Value.Merge
import RamlDocs.Value.Text

/-!
# Laws of mappings

Two keys name the same entry if and only if they have the same identity (`Key.same_iff`), so what a
key finds after another was put is decided by whether they are the same (`Mapping.find?_put`). A
text key is the same as itself alone (`Key.same_text_iff`).
-/

namespace RamlDocs

/-! ## Keys -/

/-- What tells keys apart: the identity of a point in time, the canonical form of any other key. -/
def Key.identity : Key → Calendar.Identity ⊕ Key
  | .moment t => .inl t.identity
  | k => .inr k.canonical

theorem Key.canonical_ne_moment {k : Key} (h : ∀ t, k ≠ .moment t) (t : Calendar.Timestamp) :
    k.canonical ≠ .moment t := by
  cases k with
  | moment u => exact absurd rfl (h u)
  | float x => cases hx : x.integer? <;> simp [Key.canonical, hx]
  | _ => simp [Key.canonical]

theorem Key.same_iff (k l : Key) : k.same l = true ↔ k.identity = l.identity := by
  cases k with
  | moment t =>
    cases l with
    | moment u => simp [Key.same, Key.identity, Calendar.Timestamp.same]
    | _ =>
      simp only [Key.same, Key.identity, beq_iff_eq, reduceCtorEq, iff_false]
      intro h
      exact Key.canonical_ne_moment (by simp) t h.symm
  | _ =>
    cases l with
    | moment u =>
      simp only [Key.same, Key.identity, beq_iff_eq, reduceCtorEq, iff_false]
      exact Key.canonical_ne_moment (by simp) u
    | _ => simp [Key.same, Key.identity]

@[simp] theorem Key.same_self (k : Key) : k.same k = true := (Key.same_iff k k).mpr rfl

theorem Key.same_comm (k l : Key) : k.same l = l.same k := by
  rw [Bool.eq_iff_iff, Key.same_iff, Key.same_iff]
  exact eq_comm

/-- Keys that are the same are the same as the same keys. -/
theorem Key.same_congr {k l : Key} (h : k.same l = true) (j : Key) : k.same j = l.same j := by
  rw [Bool.eq_iff_iff, Key.same_iff, Key.same_iff, (Key.same_iff k l).mp h]

theorem Key.same_text_iff (k : Key) (s : String) : k.same (.text s) = true ↔ k = .text s := by
  cases k with
  | float x => cases hx : x.integer? <;> simp [Key.same, Key.canonical, hx]
  | _ => simp [Key.same, Key.canonical]

theorem Key.eq_display_of_asText {k : Key} {s : String} (h : k.asText = .ok s) : s = k.display := by
  unfold Key.asText at h
  split at h
  · exact (Except.ok.inj h).symm
  · cases h

/-! ## Shapes -/

theorem Value.isNull_iff (v : Value) : v.isNull = true ↔ v = .null := by
  cases v <;> simp [Value.isNull]

theorem Value.text?_eq_some_iff {v : Value} {s : String} : v.text? = some s ↔ v = .text s := by
  cases v <;> simp [Value.text?]

theorem Value.eq_map_of_isMap {v : Value} (h : v.isMap = true) : v = .map v.entries := by
  cases v with
  | map m => rfl
  | _ => cases h

/-- Only a mapping has keys. -/
theorem Value.isMap_of_has {v : Value} {name : String} (has : v.entries.has name = true) :
    v.isMap = true := by
  cases v with
  | map m => rfl
  | _ => cases has

namespace Mapping

/-! ## Lookup -/

@[simp] theorem find?_nil (k : Key) : find? [] k = none := rfl

theorem has_of_isMap_get {m : Mapping} {name : String} (h : (m.get name).isMap = true) :
    m.has name = true := by
  unfold Mapping.has
  unfold Mapping.get at h
  cases found : m.get? name with
  | none =>
    rw [found] at h
    cases h
  | some v => rfl

theorem find?_cons (l : Key) (w : Value) (m : Mapping) (k : Key) :
    find? ((l, w) :: m) k = if l.same k then some w else find? m k := by
  unfold find?
  rw [List.find?_cons]
  by_cases h : l.same k = true
  · simp [h]
  · simp [h]

theorem find?_congr {k l : Key} (h : k.same l = true) (m : Mapping) : find? m k = find? m l := by
  induction m with
  | nil => rfl
  | cons e m ih =>
    obtain ⟨j, w⟩ := e
    rw [find?_cons, find?_cons, ih, Key.same_comm j k, Key.same_comm j l, Key.same_congr h j]

theorem find?_put (m : Mapping) (k : Key) (v : Value) (l : Key) :
    find? (put m k v) l = if k.same l then some v else find? m l := by
  induction m with
  | nil => rw [put, find?_cons]
  | cons e m ih =>
    obtain ⟨j, w⟩ := e
    unfold put
    by_cases hj : j.same k = true
    · rw [if_pos hj, find?_cons, find?_cons, Key.same_congr hj l]
      split <;> rfl
    · rw [if_neg hj, find?_cons, find?_cons, ih]
      by_cases hl : j.same l = true
      · -- the entry found is another one than that put
        have other : ¬ k.same l = true := by
          intro hk
          apply hj
          rw [Key.same_iff] at hk hl ⊢
          exact hl.trans hk.symm
        rw [if_pos hl, if_neg other, if_pos hl]
      · rw [if_neg hl, if_neg hl]

/-- What is found stands in the mapping, under a key that is the same. -/
theorem mem_of_find? {m : Mapping} {k : Key} {v : Value} (h : find? m k = some v) :
    ∃ l, l.same k = true ∧ (l, v) ∈ m := by
  obtain ⟨⟨l, w⟩, found, rfl⟩ := Option.map_eq_some_iff.mp h
  have same := List.find?_some found
  exact ⟨l, same, List.mem_of_find?_eq_some found⟩

/-- What a text key holds stands in the mapping under that key. -/
theorem mem_of_get {m : Mapping} {name : String} {v : Value} (h : m.get name = v)
    (notNull : v ≠ .null) : (.text name, v) ∈ m := by
  unfold get get? at h
  cases found : find? m (.text name) with
  | none =>
    rw [found] at h
    exact absurd h.symm notNull
  | some w =>
    rw [found] at h
    obtain ⟨k, same, mem⟩ := mem_of_find? found
    rw [(Key.same_text_iff k name).mp same] at mem
    exact h ▸ mem

theorem get_of_has_eq_false {m : Mapping} {name : String} (h : m.has name = false) :
    m.get name = .null := by
  unfold has at h
  unfold get
  rw [Option.isNone_iff_eq_none.mp (Option.isSome_eq_false_iff.mp h)]
  rfl

/-- What stands in a mapping after a key was put stood there before or is what was put. -/
theorem mem_put {m : Mapping} {k : Key} {v : Value} {e : Key × Value} (h : e ∈ put m k v) :
    e ∈ m ∨ (e.1 = k ∨ ∃ w, (e.1, w) ∈ m) ∧ e.1.same k = true ∧ e.2 = v := by
  induction m with
  | nil =>
    obtain rfl := List.mem_singleton.mp h
    exact .inr ⟨.inl rfl, Key.same_self k, rfl⟩
  | cons f m ih =>
    obtain ⟨l, w⟩ := f
    unfold put at h
    by_cases hl : l.same k = true
    · rw [if_pos hl] at h
      rcases List.mem_cons.mp h with rfl | mem
      · exact .inr ⟨.inr ⟨w, List.mem_cons_self⟩, hl, rfl⟩
      · exact .inl (List.mem_cons_of_mem _ mem)
    · rw [if_neg hl] at h
      rcases List.mem_cons.mp h with rfl | mem
      · exact .inl List.mem_cons_self
      · rcases ih mem with old | ⟨key, same, value⟩
        · exact .inl (List.mem_cons_of_mem _ old)
        · refine .inr ⟨key.imp_right fun ⟨u, hu⟩ => ⟨u, List.mem_cons_of_mem _ hu⟩, same, value⟩

theorem find?_without {k : Key} {name : String} (h : k ≠ .text name) (m : Mapping) :
    find? (m.without name) k = find? m k := by
  induction m with
  | nil => rfl
  | cons e m ih =>
    obtain ⟨j, w⟩ := e
    unfold without at ih ⊢
    by_cases hj : j = .text name
    · have other : ¬ j.same k = true := by
        rw [hj, Key.same_comm, Key.same_text_iff]
        exact h
      rw [List.filter_cons_of_neg (by simp [hj]), find?_cons, if_neg other, ih]
    · rw [List.filter_cons_of_pos (by simpa using hj), find?_cons, find?_cons, ih]

theorem get_without_self (m : Mapping) (name : String) : (m.without name).get name = .null := by
  have absent : find? (m.without name) (.text name) = none := by
    unfold find? without
    rw [Option.map_eq_none_iff, List.find?_eq_none]
    intro e mem same
    rw [Key.same_text_iff] at same
    simp [same] at mem
  unfold get get?
  rw [absent, Option.getD_none]

theorem get_without {key name : String} (h : key ≠ name) (m : Mapping) :
    (m.without name).get key = m.get key := by
  unfold get get?
  rw [find?_without (by simpa using h)]

/-- A key that is taken out may as well not be put. -/
theorem without_put (m : Mapping) (k : Key) (v : Value) (name : String) :
    (put m k v).without name =
      if k = .text name then m.without name else put (m.without name) k v := by
  induction m with
  | nil => by_cases hk : k = .text name <;> simp [put, without, hk]
  | cons e m ih =>
    obtain ⟨l, w⟩ := e
    unfold without at ih ⊢
    rw [put]
    by_cases same : l.same k = true
    · rw [if_pos same]
      by_cases hk : k = .text name
      · rw [hk, Key.same_text_iff] at same
        simp [hk, same]
      · have hl : l ≠ .text name := by
          rintro rfl
          rw [Key.same_comm, Key.same_text_iff] at same
          exact hk same
        simp [hk, hl, put, same]
    · rw [if_neg same, List.filter_cons, List.filter_cons, ih]
      by_cases hk : k = .text name
      · simp [hk]
      · by_cases hl : l = .text name
        · simp [hk, hl]
        · simp [hk, hl, put, same]

theorem find?_eq_none_iff {m : Mapping} {k : Key} :
    find? m k = none ↔ ∀ e ∈ m, e.1.same k = false := by
  unfold find?
  simp

theorem put_of_absent {m : Mapping} {k : Key} (absent : find? m k = none) (v : Value) :
    put m k v = m ++ [(k, v)] := by
  induction m with
  | nil => rfl
  | cons e m ih =>
    obtain ⟨l, w⟩ := e
    rw [find?_cons] at absent
    by_cases same : l.same k = true
    · simp [same] at absent
    · rw [if_neg same] at absent
      rw [put, if_neg same, ih absent, List.cons_append]

theorem set_of_absent {m : Mapping} {name : String} (absent : m.has name = false) (v : Value) :
    m.set name v = m ++ [(.text name, v)] :=
  put_of_absent (Option.isNone_iff_eq_none.mp (Option.isSome_eq_false_iff.mp absent)) v

/-! ## Mappings without repeated keys -/

/-- No key comes twice. -/
def Distinct (m : Mapping) : Prop := m.Pairwise fun e f => e.1.same f.1 = false

/-- What is put is the only entry under its key. -/
theorem Distinct.put {m : Mapping} (h : m.Distinct) (k : Key) (v : Value) :
    (put m k v).Distinct := by
  induction m with
  | nil => exact List.pairwise_singleton _ _
  | cons e m ih =>
    obtain ⟨l, w⟩ := e
    obtain ⟨new, rest⟩ := List.pairwise_cons.mp h
    unfold Mapping.put
    by_cases same : l.same k = true
    · rw [if_pos same]
      exact List.pairwise_cons.mpr ⟨new, rest⟩
    · rw [if_neg same]
      refine List.pairwise_cons.mpr ⟨fun e mem => ?_, ih rest⟩
      rcases mem_put mem with old | ⟨-, put, -⟩
      · exact new e old
      · rw [Key.same_comm, Key.same_congr put, Key.same_comm]
        exact Bool.eq_false_iff.mpr same

/-- What stands in a mapping is found under its key if no other entry has the key. -/
theorem Distinct.find?_of_mem {m : Mapping} {k : Key} {v : Value} (h : m.Distinct)
    (mem : (k, v) ∈ m) : find? m k = some v := by
  induction m with
  | nil => cases mem
  | cons e m ih =>
    obtain ⟨l, w⟩ := e
    obtain ⟨new, rest⟩ := List.pairwise_cons.mp h
    rw [find?_cons]
    rcases List.mem_cons.mp mem with own | later
    · cases own
      rw [if_pos (Key.same_self k)]
    · rw [if_neg (Bool.eq_false_iff.mp (new _ later)), ih rest later]

/-- The first entry is the only one under its key. -/
theorem Distinct.find?_tail {m : Mapping} {k l : Key} {w : Value}
    (h : Distinct ((l, w) :: m)) (same : l.same k = true) : find? m k = none := by
  rw [find?_eq_none_iff]
  intro e mem
  rw [Key.same_comm, ← Key.same_congr same]
  exact (List.pairwise_cons.mp h).1 e mem

theorem Distinct.overlay {m : Mapping} (h : m.Distinct) (n : Mapping) :
    (overlay m n).Distinct := by
  unfold Mapping.overlay
  induction n generalizing m with
  | nil => exact h
  | cons e n ih => exact ih (h.put e.1 e.2)

/-- Entries of which none has a key that comes before are added at the end. -/
theorem overlay_of_distinct {m n : Mapping} (distinct : (m ++ n).Distinct) :
    overlay m n = m ++ n := by
  induction n generalizing m with
  | nil => rw [overlay, List.foldl_nil, List.append_nil]
  | cons e n ih =>
    have put : m.put e.1 e.2 = m ++ [e] := by
      refine put_of_absent (find?_eq_none_iff.mpr fun f mem => ?_) e.2
      exact (List.pairwise_append.mp distinct).2.2 f mem e List.mem_cons_self
    rw [List.append_cons, ← put] at distinct ⊢
    exact ih distinct

/-- What is overlaid without a key leaves what was under the key. -/
theorem find?_overlay_of_absent {m n : Mapping} {k : Key} (absent : find? n k = none) :
    find? (overlay m n) k = find? m k := by
  unfold overlay
  induction n generalizing m with
  | nil => rfl
  | cons e n ih =>
    obtain ⟨l, w⟩ := e
    rw [find?_cons] at absent
    by_cases same : l.same k = true
    · simp [same] at absent
    · rw [if_neg same] at absent
      rw [List.foldl_cons, ih absent, find?_put, if_neg same]

/-- What is overlaid comes before what was there. -/
theorem find?_overlay {n : Mapping} (distinct : n.Distinct) (m : Mapping) (k : Key) :
    find? (overlay m n) k = (find? n k).or (find? m k) := by
  induction n generalizing m with
  | nil => rfl
  | cons e n ih =>
    obtain ⟨l, w⟩ := e
    change find? (overlay (put m l w) n) k = _
    rw [ih distinct.of_cons, find?_put, find?_cons]
    by_cases same : l.same k = true
    · rw [distinct.find?_tail same, if_pos same, if_pos same]
      rfl
    · rw [if_neg same, if_neg same]

end Mapping

end RamlDocs
