import RamlDocs.Proofs.Value.Merge

/-!
# Which source prevails

A mapping is often completed by several others in turn, such as a method by its traits. The result
is told here without the turns (`Mapping.merged_sources`): its keys are those of all sources in
order of first occurrence, and under a key stands the first value that is not null; a mapping is
completed by the later values that are mappings, and by those alone (`Value.prevailing`).

The sources are taken one after the other in the first induction, which leaves for each key the
values that it has in the sources, each completed by the next (`Mapping.find?_foldl_merge`). The
second is on these values (`Value.foldl_completedBy`). What the sources hold below a key needs no
assumption; only at the top does a key have to come once.
-/

namespace RamlDocs

/-! ## Values of one key -/

/-- The entries of a mapping; none for any other value. -/
def Value.map? : Value → Option Mapping
  | .map m => some m
  | _ => none

/-- What the values of one key come to, that of the first source first: the first that is not null.
If it is a mapping, it is completed by the later ones that are mappings. -/
def Value.prevailing (vs : List Value) : Value :=
  match vs.dropWhile Value.isNull with
  | [] => .null
  | .map m :: later => .map ((later.filterMap Value.map?).foldl Mapping.merge m)
  | v :: _ => v

theorem Value.foldl_completedBy_map (m : Mapping) (vs : List Value) :
    vs.foldl Value.completedBy (.map m) =
      .map ((vs.filterMap Value.map?).foldl Mapping.merge m) := by
  induction vs generalizing m with
  | nil => rfl
  | cons v vs ih =>
    cases v with
    | map s => exact ih (m.merge s)
    | _ => exact ih m

theorem Value.foldl_completedBy_settled {v : Value} (settled : v.Settled) (vs : List Value) :
    vs.foldl Value.completedBy v = v := by
  induction vs with
  | nil => rfl
  | cons w vs ih =>
    rw [List.foldl_cons, Value.completedBy_of_isMap_eq_false settled.1 settled.2, ih]

/-- Values completed one by the next come to the one that prevails. -/
theorem Value.foldl_completedBy (v : Value) (vs : List Value) :
    vs.foldl Value.completedBy v = Value.prevailing (v :: vs) := by
  induction vs generalizing v with
  | nil => cases v <;> rfl
  | cons w vs ih =>
    cases v with
    | null =>
      have passed : Value.prevailing (.null :: w :: vs) = Value.prevailing (w :: vs) := rfl
      rw [passed, ← ih w, List.foldl_cons, Value.completedBy]
    | map m => exact Value.foldl_completedBy_map m (w :: vs)
    | _ => exact Value.foldl_completedBy_settled ⟨by simp, rfl⟩ (w :: vs)

namespace Mapping

/-- The values of a key in several sources: each completed by the next. -/
theorem find?_foldl_merge {ts : List Mapping} (distinct : ∀ t ∈ ts, t.Distinct) (m : Mapping)
    (k : Key) :
    find? (ts.foldl merge m) k =
      match (m :: ts).filterMap (find? · k) with
      | [] => none
      | v :: vs => some (vs.foldl Value.completedBy v) := by
  induction ts generalizing m with
  | nil => cases h : find? m k <;> simp [h]
  | cons t ts ih =>
    obtain ⟨own, rest⟩ := List.forall_mem_cons.mp distinct
    rw [List.foldl_cons, ih rest, List.filterMap_cons, find?_merge own]
    cases first : find? m k <;> cases second : find? t k <;>
      simp [first, second, Value.completedBy]

/-! ## Keys -/

/-- The keys of a mapping, in order. -/
def keys (m : Mapping) : List Key := m.map (·.1)

theorem keys_put (m : Mapping) (k : Key) (v : Value) :
    (put m k v).keys = if m.keys.any (k.same ·) then m.keys else m.keys ++ [k] := by
  induction m with
  | nil => rfl
  | cons e m ih =>
    obtain ⟨l, w⟩ := e
    unfold put
    by_cases same : l.same k = true
    · have found : k.same l = true := (Key.same_comm k l).trans same
      simp [keys, same, found]
    · have other : k.same l = false := (Key.same_comm k l).trans (Bool.eq_false_iff.mpr same)
      unfold keys at ih ⊢
      rw [if_neg same, List.map_cons, List.map_cons, ih, List.any_cons, other, Bool.false_or]
      split <;> rfl

/-- Keys that are read after others, each kept unless it came before. -/
theorem keys_merge (m s : Mapping) :
    (merge m s).keys = List.eraseDupsBy.loop Key.same s.keys m.keys.reverse := by
  induction s generalizing m with
  | nil => exact (List.reverse_reverse _).symm
  | cons e s ih =>
    obtain ⟨k, w⟩ := e
    have first : keys ((k, w) :: s) = k :: keys s := rfl
    rw [merge_cons, ih, keys_put, first, List.eraseDupsBy.loop, List.any_reverse]
    by_cases known : m.keys.any (k.same ·) = true
    · rw [if_pos known, known]
    · rw [if_neg known, Bool.eq_false_iff.mpr known, List.reverse_append]
      rfl

/-- Keys may be read in two parts. -/
theorem loop_append (ks ls seen : List Key) :
    List.eraseDupsBy.loop Key.same (ks ++ ls) seen =
      List.eraseDupsBy.loop Key.same ls (List.eraseDupsBy.loop Key.same ks seen).reverse := by
  induction ks generalizing seen with
  | nil => rw [List.nil_append, List.eraseDupsBy.loop, List.reverse_reverse]
  | cons k ks ih =>
    rw [List.cons_append, List.eraseDupsBy.loop, List.eraseDupsBy.loop]
    cases seen.any (Key.same k) <;> exact ih _

theorem keys_foldl_merge_eq_loop (m : Mapping) (ts : List Mapping) :
    (ts.foldl merge m).keys =
      List.eraseDupsBy.loop Key.same (ts.flatMap keys) m.keys.reverse := by
  induction ts generalizing m with
  | nil => exact (List.reverse_reverse _).symm
  | cons t ts ih => rw [List.foldl_cons, ih, keys_merge, List.flatMap_cons, loop_append]

/-- Keys of which none comes twice are all kept. -/
theorem loop_of_pairwise {ks seen : List Key}
    (distinct : (seen.reverse ++ ks).Pairwise fun k l => k.same l = false) :
    List.eraseDupsBy.loop Key.same ks seen = seen.reverse ++ ks := by
  induction ks generalizing seen with
  | nil => exact (List.append_nil _).symm
  | cons k ks ih =>
    have new : seen.any (Key.same k) = false := by
      rw [List.any_eq_false]
      intro l mem
      have apart := (List.pairwise_append.mp distinct).2.2 l (List.mem_reverse.mpr mem) k
        List.mem_cons_self
      rw [Key.same_comm, apart]
      exact Bool.false_ne_true
    rw [List.append_cons, ← List.reverse_cons] at distinct
    rw [List.eraseDupsBy.loop, new, ih distinct, List.reverse_cons, ← List.append_cons]

theorem distinct_foldl_merge {m : Mapping} (h : m.Distinct) (ts : List Mapping) :
    (ts.foldl merge m).Distinct := by
  induction ts generalizing m with
  | nil => exact h
  | cons t ts ih => exact ih h.merge

/-- The keys of the first source are kept as they are, so they may as well be read. -/
theorem keys_foldl_merge {m : Mapping} (h : m.Distinct) (ts : List Mapping) :
    (ts.foldl merge m).keys = ((m :: ts).flatMap keys).eraseDupsBy Key.same := by
  have own : List.eraseDupsBy.loop Key.same m.keys [] = m.keys :=
    loop_of_pairwise (List.pairwise_map.mpr h)
  rw [keys_foldl_merge_eq_loop, List.flatMap_cons, List.eraseDupsBy, loop_append, own]

/-! ## All sources -/

/-- A mapping completed by others in turn has the keys of all, in order of first occurrence and each
once, and under each of them the value that prevails among those that the sources have there. -/
theorem merged_sources {m : Mapping} {ts : List Mapping} (hm : m.Distinct)
    (hts : ∀ t ∈ ts, t.Distinct) :
    (ts.foldl merge m).keys = ((m :: ts).flatMap keys).eraseDupsBy Key.same ∧
      (ts.foldl merge m).Distinct ∧
      ∀ k, find? (ts.foldl merge m) k =
        match (m :: ts).filterMap (find? · k) with
        | [] => none
        | vs => some (Value.prevailing vs) := by
  refine ⟨keys_foldl_merge hm ts, distinct_foldl_merge hm ts, fun k => ?_⟩
  rw [find?_foldl_merge hts]
  cases (m :: ts).filterMap (find? · k) with
  | nil => rfl
  | cons v vs => exact congrArg some (Value.foldl_completedBy v vs)

/-- A mapping with a null, a mapping and an integer as key. -/
def prioritySource : Mapping :=
  [(.text "a", .null), (.text "b", .record [("x", .int 1)]), (.int 1, .text "own")]

/-- Two others: the first has a number where the second has a mapping, the second a boolean that is
the same key as the integer. -/
def prioritySources : List Mapping :=
  [[(.text "b", .int 5), (.text "c", .null), (.text "a", .record [("y", .null)])],
    [(.text "b", .record [("x", .int 2), ("z", .int 3)]), (.text "a", .record [("y", .int 4)]),
      (.bool true, .text "other"), (.text "d", .int 7)]]

/-- The number does not keep the mapping behind it from completing `b`. -/
theorem merged_prioritySources :
    (prioritySources.foldl merge prioritySource).keys =
        [.text "a", .text "b", .int 1, .text "c", .text "d"] ∧
      find? (prioritySources.foldl merge prioritySource) (.text "b") =
        some (.map (merge [(.text "x", .int 1)] [(.text "x", .int 2), (.text "z", .int 3)])) ∧
      find? (prioritySources.foldl merge prioritySource) (.text "c") = some .null := by
  have distinct : prioritySource.Distinct ∧ ∀ t ∈ prioritySources, t.Distinct := by
    unfold Distinct
    decide
  obtain ⟨order, -, values⟩ := merged_sources distinct.1 distinct.2
  exact ⟨order.trans (by decide), values (.text "b"), values (.text "c")⟩

end Mapping

end RamlDocs
