import RamlDocs.Proofs.Outcome
import RamlDocs.Proofs.Template.Spelling
import RamlDocs.Proofs.Value.Every
import RamlDocs.Template.Fill

/-!
# What filling in makes

A filled mapping has no key twice, because keys that become equal fall together, and so has every
mapping inside of it that the template has. Those that come from parameters stay as they are
(`within_fillEntries`).

Of the parameters only those matter for which the template has a placeholder (`fillEntries_congr`).
-/

namespace RamlDocs

/-- All keys and all scalars: of a value it only says that no mapping in it has a key twice. -/
def Vocabulary.any : Vocabulary := ⟨fun _ => true, fun _ => true, rfl⟩

theorem entriesWithin_any_iff {m : Mapping} :
    entriesWithin .any m = true ↔ m.Distinct ∧ ∀ e ∈ m, e.2.within .any = true := by
  rw [entriesWithin_iff]
  exact and_congr_right fun _ => forall₂_congr fun _ _ => and_iff_right rfl

namespace Template

variable {params : Params}

/-! ## Parameters -/

theorem Params.mem_of_lookup {name : String} {v : Value} (h : params.lookup name = some v) :
    (name, v) ∈ params := by
  obtain ⟨before, after, split_, -⟩ := List.lookup_eq_some_iff.mp h
  exact split_ ▸ List.mem_append_right before List.mem_cons_self

theorem wholeValue?_eq_some_iff {cs : List Char} {v : Value} :
    wholeValue? params cs = some v ↔ ∃ p, whole? cs = some p ∧ p.transform = none ∧
      params.lookup (String.ofList p.name) = some v := by
  unfold wholeValue?
  split
  next name source whole => simp [whole]
  next other =>
    simp only [reduceCtorEq, false_iff, not_exists, not_and]
    rintro ⟨name, t, source⟩ whole rfl
    exact absurd whole (other name source)

/-! ## One by one -/

theorem fillItems_eq_mapM (params : Params) (vs : List Value) :
    fillItems params vs = vs.mapM (fill params) := by
  induction vs with
  | nil => rfl
  | cons v vs ih =>
    rw [fillItems, ih, List.mapM_cons]
    rfl

/-- An entry with the placeholders in its key and in its value filled in. -/
def filledEntry (params : Params) (e : Key × Value) : Except Fault (Key × Value) := do
  let name ← fillKey params e.1
  let w ← fill params e.2
  let l ← toKey name
  .ok (l, w)

theorem filledEntry_eq_ok_iff {e f : Key × Value} :
    filledEntry params e = .ok f ↔
      (fillKey params e.1 >>= toKey) = .ok f.1 ∧ fill params e.2 = .ok f.2 := by
  unfold filledEntry
  cases fillKey params e.1 with
  | error fault => simp [error_bind]
  | ok name =>
    cases fill params e.2 with
    | error fault => simp [ok_bind, error_bind]
    | ok w =>
      simp only [ok_bind]
      cases toKey name with
      | error fault => simp [error_bind]
      | ok l => simp [ok_bind, Prod.ext_iff]

/-- The filled entries are put one after the other. -/
theorem fillEntries_eq_mapM (params : Params) (done m : Mapping) :
    fillEntries params done m = (m.mapM (filledEntry params)).map done.overlay := by
  induction m generalizing done with
  | nil => rfl
  | cons e m ih =>
    obtain ⟨k, v⟩ := e
    have own : filledEntry params (k, v) = fillKey params k >>= fun name =>
        fill params v >>= fun w => toKey name >>= fun l => .ok (l, w) := rfl
    rw [fillEntries, List.mapM_cons, bind_map, own]
    simp only [bind_assoc]
    refine bind_congr_ok fun name _ => bind_congr_ok fun w _ => bind_congr_ok fun l _ => ?_
    rw [ih, ok_bind, bind_map]
    cases m.mapM (filledEntry params) <;> rfl

/-! ## Parameters that a template does not use -/

/-- Whether a piece is no placeholder for a parameter. -/
def Piece.omits (name : String) : Piece → Bool
  | .char _ => true
  | .hole p => String.ofList p.name != name

/-- Whether a text has no placeholder for a parameter. -/
def textOmits (name s : String) : Bool := (parse s.toList).all (Piece.omits name)

/-- Whether a key has no placeholder for a parameter. -/
def keyOmits (name : String) : Key → Bool
  | .text s => textOmits name s
  | _ => true

/-- Whether no key of a mapping has a placeholder for a parameter. -/
def keysOmit (name : String) (m : Mapping) : Bool := m.all fun e => keyOmits name e.1

/-- Whether a template has no placeholder for a parameter. -/
def omits (name : String) (v : Value) : Bool := v.every (textOmits name) (keysOmit name)

section Omitted

variable {name : String} {other : Params}
  (same : ∀ n, n ≠ name → params.lookup n = other.lookup n)
include same

theorem fillText_congr {s : String} (h : textOmits name s = true) :
    fillText params s = fillText other s := by
  have holes : ∀ p, .hole p ∈ parse s.toList →
      params.lookup (String.ofList p.name) = other.lookup (String.ofList p.name) := by
    intro p mem
    have named := List.all_eq_true.mp h _ mem
    exact same _ (by simpa [Piece.omits] using named)
  have whole : wholeValue? params s.toList = wholeValue? other s.toList := by
    unfold wholeValue?
    split
    next found => exact holes _ (pieces_of_whole? found).1
    next => rfl
  have pieces : (parse s.toList).mapM (Piece.fill params) =
      (parse s.toList).mapM (Piece.fill other) := by
    refine mapM_congr fun piece mem => ?_
    cases piece with
    | char c => rfl
    | hole p => rw [Piece.fill, Piece.fill, holes p mem]
  rw [fillText, fillText, whole, pieces]

theorem filledEntry_congr {e : Key × Value} (key : keyOmits name e.1 = true)
    (value : fill params e.2 = fill other e.2) : filledEntry params e = filledEntry other e := by
  have filled : fillKey params e.1 = fillKey other e.1 := by
    cases named : e.1 with
    | text s =>
      rw [named] at key
      exact fillText_congr same key
    | _ => rfl
  rw [filledEntry, filledEntry, filled, value]

theorem fillEntries_congr_of_values {m : Mapping} (keys : keysOmit name m = true)
    (values : ∀ e ∈ m, fill params e.2 = fill other e.2) (done : Mapping) :
    fillEntries params done m = fillEntries other done m := by
  rw [fillEntries_eq_mapM, fillEntries_eq_mapM, mapM_congr fun e mem =>
    filledEntry_congr same (List.all_eq_true.mp keys e mem) (values e mem)]

/-- What a parameter is does not matter to a template that has no placeholder for it. -/
theorem fill_congr (v : Value) : omits name v = true → fill params v = fill other v := by
  refine Value.induction (P := fun v => omits name v = true → fill params v = fill other v)
    ?_ ?_ ?_ v
  · intro v leaf h
    cases v with
    | text s => exact fillText_congr same h
    | list vs => cases leaf
    | map m => cases leaf
    | _ => rfl
  · intro vs all h
    have items := everyItem_iff.mp h
    rw [fill, fill, fillItems_eq_mapM, fillItems_eq_mapM,
      mapM_congr fun v mem => all v mem (items v mem)]
  · intro m all h
    obtain ⟨keys, values⟩ := Value.every_map_iff.mp h
    rw [fill, fill, fillEntries_congr_of_values same keys fun e mem => all e mem (values e mem)]

theorem fillEntries_congr {m : Mapping} (h : omits name (.map m) = true) (done : Mapping) :
    fillEntries params done m = fillEntries other done m := by
  obtain ⟨keys, values⟩ := Value.every_map_iff.mp h
  exact fillEntries_congr_of_values same keys (fun e mem => fill_congr same e.2 (values e mem)) done

end Omitted

/-! ## Keys that come once -/

theorem distinct_fillEntries {m done filled : Mapping}
    (h : fillEntries params done m = .ok filled) (distinct : done.Distinct) :
    filled.Distinct := by
  rw [fillEntries_eq_mapM] at h
  obtain ⟨es, -, rfl⟩ := map_eq_ok.mp h
  exact distinct.overlay es

/-- No parameter has a value in which a mapping has a key twice. -/
def Params.AreDistinct (params : Params) : Prop := ∀ p ∈ params, p.2.within .any = true

theorem within_of_wholeValue? (given : params.AreDistinct) {cs : List Char} {v : Value}
    (h : wholeValue? params cs = some v) : v.within .any = true := by
  obtain ⟨p, -, -, found⟩ := wholeValue?_eq_some_iff.mp h
  exact given _ (Params.mem_of_lookup found)

theorem within_fillText (given : params.AreDistinct) {s : String} {w : Value}
    (h : fillText params s = .ok w) : w.within .any = true := by
  unfold fillText at h
  split at h
  next v whole =>
    cases h
    exact within_of_wholeValue? given whole
  next =>
    obtain ⟨pieces, _, h⟩ := bind_eq_ok.mp h
    cases h
    rfl

mutual

theorem within_fill (given : params.AreDistinct) :
    ∀ (v : Value) {w : Value}, fill params v = .ok w → w.within .any = true
  | .text s, w, h => within_fillText given h
  | .list vs, w, h => by
    obtain ⟨ws, came, rfl⟩ := map_eq_ok.mp h
    exact itemsWithin_iff.mpr (within_fillItems given vs came)
  | .map m, w, h => by
    obtain ⟨filled, came, rfl⟩ := map_eq_ok.mp h
    exact within_fillEntries given m rfl came
  | .null, _, h => by cases h; rfl
  | .bool _, _, h => by cases h; rfl
  | .int _, _, h => by cases h; rfl
  | .float _, _, h => by cases h; rfl
  | .bytes _, _, h => by cases h; rfl
  | .moment _, _, h => by cases h; rfl
  | .tuple _, _, h => by cases h; rfl
  | .set _, _, h => by cases h; rfl

theorem within_fillItems (given : params.AreDistinct) :
    ∀ (vs : List Value) {ws : List Value}, fillItems params vs = .ok ws →
      ∀ w ∈ ws, w.within .any = true
  | [], ws, h => by
    cases h
    simp
  | v :: vs, ws, h => by
    obtain ⟨w, own, h⟩ := bind_eq_ok.mp h
    obtain ⟨ws, rest, h⟩ := bind_eq_ok.mp h
    cases h
    exact List.forall_mem_cons.mpr ⟨within_fill given v own, within_fillItems given vs rest⟩

theorem within_fillEntries (given : params.AreDistinct) :
    ∀ (m : List (Key × Value)) {done filled : Mapping}, entriesWithin .any done = true →
      fillEntries params done m = .ok filled → entriesWithin .any filled = true
  | [], done, filled, within, h => by
    cases h
    exact within
  | (k, v) :: m, done, filled, within, h => by
    rw [fillEntries] at h
    obtain ⟨name, _, h⟩ := bind_eq_ok.mp h
    obtain ⟨w, own, h⟩ := bind_eq_ok.mp h
    obtain ⟨l, _, h⟩ := bind_eq_ok.mp h
    exact within_fillEntries given m (entriesWithin_put within rfl (within_fill given v own)) h

end

end Template

end RamlDocs
