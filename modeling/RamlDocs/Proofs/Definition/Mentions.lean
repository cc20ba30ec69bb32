import RamlDocs.Proofs.Definition.Verbatim

/-!
# What a definition says of a method

What a definition says of a method stands under the name of the method, or under its marked name
where the definition only adds to a method that is there. `mentions` lists both in order. To put
another key, to merge and to complete a mapping leave what it says of a method as it was, but for
the value without a mark, which is completed (`mentions_complete`). What a definition contributes to
a mapping under the name of a method is the last of its values that counts there
(`find?_contribution_eq_last`).
-/

namespace RamlDocs

open Template (literal)

namespace ResourceType

/-! ## What is said of a method -/

/-- Whether a key stands for a method with a mark or without; none if it is not about the method. -/
def mention? (name : String) (k : Key) : Option Bool :=
  if httpMethod? k = some name then some false
  else if optionalMethod? k = some name then some true
  else none

/-- What a mapping says of a method, in order: each value, and whether it is marked. -/
def mentions (name : String) (m : Mapping) : List (Bool × Value) :=
  m.filterMap fun e => (mention? name e.1).map fun marked => (marked, e.2)

/-- The value without a mark, if there is one. -/
def unmarked? (said : List (Bool × Value)) : Option Value := (said.find? (!·.1)).map (·.2)

/-- What counts for a mapping, of what a definition says of a method: all if the mapping has the
method, else what has no mark. -/
def counting {α : Type} (has : Bool) (said : List (Bool × α)) : List α :=
  (said.filter fun e => has || !e.1).map (·.2)

variable {name : String} {k l : Key} {v w : Value} {m d : Mapping}

theorem mention?_eq_false (h : mention? name k = some false) : k = .text name := by
  unfold mention? at h
  split at h
  next named => exact (httpMethod?_eq_some_iff.mp named).1
  next => split at h <;> cases h

theorem mention?_name (method : name ∈ httpMethods) : mention? name (.text name) = some false := by
  unfold mention?
  rw [if_pos (httpMethod?_eq_some_iff.mpr ⟨rfl, method⟩)]

theorem exists_text_of_mention? {marked : Bool} (h : mention? name k = some marked) :
    ∃ s, k = .text s := by
  cases k with
  | text s => exact ⟨s, rfl⟩
  | _ => simp [mention?, httpMethod?, optionalMethod?] at h

/-- Keys that are the same are about the same method. -/
theorem mention?_congr (same : l.same k = true) : mention? name l = mention? name k := by
  cases hl : mention? name l with
  | some marked =>
    obtain ⟨s, rfl⟩ := exists_text_of_mention? hl
    rw [Key.same_comm, Key.same_text_iff] at same
    rw [same, hl]
  | none =>
    cases hk : mention? name k with
    | none => rfl
    | some marked =>
      obtain ⟨s, rfl⟩ := exists_text_of_mention? hk
      rw [(Key.same_text_iff l s).mp same, hk] at hl
      cases hl

@[simp] theorem mentions_nil : mentions name [] = [] := rfl

theorem mentions_cons (k : Key) (v : Value) (m : Mapping) :
    mentions name ((k, v) :: m) =
      ((mention? name k).map fun marked => (marked, v)).toList ++ mentions name m := by
  unfold mentions
  cases h : mention? name k <;> simp [h]

/-- What is said without a mark is what is found under the name. -/
theorem unmarked?_mentions (method : name ∈ httpMethods) (m : Mapping) :
    unmarked? (mentions name m) = m.find? (.text name) := by
  induction m with
  | nil => rfl
  | cons e m ih =>
    obtain ⟨k, v⟩ := e
    rw [mentions_cons, Mapping.find?_cons, ← ih]
    by_cases same : k.same (.text name) = true
    · rw [mention?_congr same, mention?_name method, if_pos same]
      rfl
    · rw [if_neg same]
      rcases hk : mention? name k with _ | _ | _
      · rfl
      · exact absurd ((Key.same_text_iff k name).mpr (mention?_eq_false hk)) same
      · rfl

/-! ## What completing does to it -/

/-- A value said without a mark, in place of what was said so or else last. -/
def say (v : Value) : List (Bool × Value) → List (Bool × Value)
  | [] => [(false, v)]
  | (true, w) :: said => (true, w) :: say v said
  | (false, _) :: said => (false, v) :: said

/-- What is said once the value without a mark is completed by one that is brought, if one is. -/
def saidWith : Option Value → List (Bool × Value) → List (Bool × Value)
  | none, said => said
  | some w, said => say (((unmarked? said).getD .null).completedBy w) said

theorem unmarked?_say (v : Value) (said : List (Bool × Value)) :
    unmarked? (say v said) = some v := by
  induction said with
  | nil => rfl
  | cons e said ih =>
    obtain ⟨_ | _, w⟩ := e
    · rfl
    · exact ih

theorem mentions_without {other : String} (unrelated : mention? name (.text other) = none)
    (m : Mapping) : mentions name (m.without other) = mentions name m := by
  induction m with
  | nil => rfl
  | cons e m ih =>
    obtain ⟨k, v⟩ := e
    unfold Mapping.without at ih ⊢
    by_cases hk : k = .text other
    · rw [List.filter_cons_of_neg (by simp [hk]), ih, mentions_cons, hk, unrelated]
      rfl
    · rw [List.filter_cons_of_pos (by simpa using hk), mentions_cons, mentions_cons, ih]

theorem mentions_put_of_none (unrelated : mention? name k = none) (m : Mapping) (v : Value) :
    mentions name (m.put k v) = mentions name m := by
  induction m with
  | nil => simp [Mapping.put, mentions_cons, unrelated]
  | cons e m ih =>
    obtain ⟨l, w⟩ := e
    unfold Mapping.put
    by_cases same : l.same k = true
    · rw [if_pos same, mentions_cons, mentions_cons, mention?_congr same, unrelated]
      rfl
    · rw [if_neg same, mentions_cons, mentions_cons, ih]

theorem mentions_put_name (method : name ∈ httpMethods) (m : Mapping) (v : Value) :
    mentions name (m.put (.text name) v) = say v (mentions name m) := by
  induction m with
  | nil => simp [Mapping.put, mentions_cons, mention?_name method, say]
  | cons e m ih =>
    obtain ⟨l, w⟩ := e
    unfold Mapping.put
    by_cases same : l.same (.text name) = true
    · rw [if_pos same, mentions_cons, mentions_cons, mention?_congr same, mention?_name method]
      rfl
    · rw [if_neg same, mentions_cons, mentions_cons, ih]
      rcases hl : mention? name l with _ | _ | _
      · rfl
      · exact absurd ((Key.same_text_iff l name).mpr (mention?_eq_false hl)) same
      · rfl

/-- What is merged in has no marks, so only what is said without a mark is completed. -/
theorem mentions_merge (method : name ∈ httpMethods) {s : Mapping} (distinct : s.Distinct)
    (plain : ∀ e ∈ s, mention? name e.1 ≠ some true) (m : Mapping) :
    mentions name (m.merge s) = saidWith (s.find? (.text name)) (mentions name m) := by
  induction s generalizing m with
  | nil => rfl
  | cons e s ih =>
    obtain ⟨k, w⟩ := e
    obtain ⟨new, rest⟩ := List.pairwise_cons.mp distinct
    obtain ⟨own, plain⟩ := List.forall_mem_cons.mp plain
    rw [Mapping.merge_cons, ih rest plain, Mapping.find?_cons]
    rcases hk : mention? name k with _ | _ | _
    · have other : ¬ k.same (.text name) = true := by
        intro same
        rw [mention?_congr same, mention?_name method] at hk
        cases hk
      rw [if_neg other, mentions_put_of_none hk]
    · obtain rfl := mention?_eq_false hk
      have absent : Mapping.find? s (.text name) = none :=
        Mapping.find?_eq_none_iff.mpr fun e mem => by rw [Key.same_comm, new e mem]
      rw [absent, if_pos (Key.same_self _), mentions_put_name method]
      simp only [saidWith, unmarked?_mentions method]
    · exact absurd hk own

theorem mention?_of_not_mem {other : String} (notMethod : other ∉ httpMethods)
    (solid : other.toList.getLast? ≠ some '?') : mention? name (.text other) = none := by
  have unmarked : optionalMethod? (.text other) = none := by
    simp [optionalMethod?, solid]
  have unnamed : httpMethod? (.text other) = none := by
    simp [httpMethod?, notMethod]
  simp [mention?, unmarked, unnamed]

theorem mentions_complete (method : name ∈ httpMethods) {applied : Mapping}
    (distinct : applied.Distinct) (plain : ∀ e ∈ applied, mention? name e.1 ≠ some true) :
    mentions name (complete d applied) =
      saidWith (applied.find? (.text name)) (mentions name d) := by
  have type : mention? name (.text "type") = none := mention?_of_not_mem (by decide) (by decide)
  have is : mention? name (.text "is") = none := mention?_of_not_mem (by decide) (by decide)
  have merged := mentions_merge method distinct plain (d.without "type")
  rw [mentions_without type] at merged
  unfold complete
  simp only
  split
  · exact merged
  · rw [Mapping.set, mentions_put_of_none is, merged]

/-! ## What a definition contributes -/

/-- Whether a mention counts for a mapping is whether its key goes to the method there. -/
theorem counts_iff (method : name ∈ httpMethods) (m : Mapping) (k : Key) :
    target? m k = some (.text name) ↔
      ∃ marked, mention? name k = some marked ∧ (m.has name || !marked) = true := by
  unfold target? mention?
  by_cases type : k = .text "type"
  · subst type
    have unmarked : optionalMethod? (.text "type") = none := by decide
    have unnamed : httpMethod? (.text "type") = none := by decide
    simp [unmarked, unnamed]
  rw [if_neg type]
  cases ho : optionalMethod? k with
  | some other =>
    obtain ⟨-, unnamed⟩ := optionalMethod?_eq_some ho
    by_cases same : other = name
    · subst same
      by_cases has : m.has other = true <;> simp [unnamed, has]
    · by_cases has : m.has other = true <;> simp [unnamed, has, same]
  | none =>
    simp only [Option.some.injEq, reduceCtorEq, if_false]
    constructor
    · rintro rfl
      exact ⟨false, by rw [if_pos (httpMethod?_eq_some_iff.mpr ⟨rfl, method⟩)], by simp⟩
    · rintro ⟨marked, named, -⟩
      split at named
      next h => exact (httpMethod?_eq_some_iff.mp h).1
      next => cases named

theorem mention?_eq_true (h : mention? name k = some true) : optionalMethod? k = some name := by
  unfold mention? at h
  split at h
  · cases h
  · split at h
    next marked => exact marked
    next => cases h

/-- A key that goes to a mapping has no mark there. -/
theorem unmarked_of_target? (h : target? m k = some l) (name : String) :
    mention? name l ≠ some true := by
  intro twice
  have marked := mention?_eq_true twice
  rcases target?_eq_some h with ⟨unmarked, rfl⟩ | ⟨method, known, -, rfl⟩
  · rw [marked] at unmarked
    cases unmarked
  · obtain ⟨-, unnamed⟩ := optionalMethod?_eq_some marked
    rw [httpMethod?_eq_some_iff.mpr ⟨rfl, known⟩] at unnamed
    cases unnamed

theorem counting_mentions_cons (method : name ∈ httpMethods) (m : Mapping) (k : Key) (v : Value)
    (definition : Mapping) :
    counting (m.has name) (mentions name ((k, v) :: definition)) =
      (if target? m k = some (.text name) then [v] else []) ++
        counting (m.has name) (mentions name definition) := by
  unfold counting
  rw [mentions_cons, List.filter_append, List.map_append]
  congr 1
  cases hk : mention? name k with
  | none => simp [counts_iff method m k, hk]
  | some marked =>
    by_cases counts : (m.has name || !marked) = true
    · have goes := (counts_iff method m k).mpr ⟨marked, hk, counts⟩
      simp [goes, counts]
    · have lost : target? m k ≠ some (.text name) := by
        rw [ne_eq, counts_iff method m k]
        rintro ⟨other, same, h⟩
        cases hk.symm.trans same
        exact counts h
      simp [lost, counts]

/-- A contribution has no marks. -/
theorem unmarked_contribution {definition done applied : Mapping}
    (h : contribution m done definition = .ok applied)
    (plain : ∀ e ∈ done, ∀ name, mention? name e.1 ≠ some true) :
    ∀ e ∈ applied, ∀ name, mention? name e.1 ≠ some true := by
  induction definition generalizing done with
  | nil =>
    cases h
    exact plain
  | cons e definition ih =>
    obtain ⟨k, v⟩ := e
    unfold contribution at h
    cases ht : target? m k with
    | none =>
      rw [ht] at h
      exact ih h plain
    | some l =>
      rw [ht] at h
      obtain ⟨w, _, h⟩ := bind_eq_ok.mp h
      refine ih h fun e mem => ?_
      rcases Mapping.mem_put mem with old | ⟨put | ⟨w, held⟩, -, -⟩
      · exact plain e old
      · exact put ▸ unmarked_of_target? ht
      · exact plain (e.1, w) held

/-- Under the name of a method a contribution has the last value that counts. -/
theorem find?_contribution_eq_last {definition done applied : Mapping}
    (h : contribution m done definition = .ok applied)
    (within : entriesWithin literal definition = true) (method : name ∈ httpMethods) :
    applied.find? (.text name) =
      (counting (m.has name) (mentions name definition)).getLast?.or
        (done.find? (.text name)) := by
  have all := (entriesWithin_iff.mp within).2
  clear within
  induction definition generalizing done with
  | nil =>
    cases h
    rfl
  | cons e definition ih =>
    obtain ⟨k, v⟩ := e
    obtain ⟨⟨-, value⟩, rest⟩ := List.forall_mem_cons.mp all
    unfold contribution at h
    cases ht : target? m k with
    | none =>
      rw [ht] at h
      rw [ih h rest, counting_mentions_cons method, ht, if_neg (by simp), List.nil_append]
    | some l =>
      rw [ht] at h
      simp only [fillMethod_of_within verbatim_literal l value, ok_bind] at h
      rw [ih h rest, counting_mentions_cons method, ht, Mapping.find?_put]
      by_cases same : l = .text name
      · subst same
        rw [if_pos (Key.same_self _), if_pos rfl, List.singleton_append, List.getLast?_cons]
        cases (counting (m.has name) (mentions name definition)).getLast? <;> rfl
      · rw [if_neg (mt (Key.same_text_iff l name).mp same), if_neg (by simpa using same),
          List.nil_append]

end ResourceType

end RamlDocs
