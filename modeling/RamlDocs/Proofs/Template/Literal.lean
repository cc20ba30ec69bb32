import RamlDocs.Proofs.Template.Fill
import RamlDocs.Proofs.Template.Spelling

/-!
# Texts without placeholders

A text in which no placeholder is found stays as it is when templates are filled in, whatever the
parameters are (`fillText_of_isLiteral`), and so does a value all of whose texts are of this kind
(`fill_of_within`). The blanks around a text matter here: a text that is one placeholder between
blanks is taken whole, so it has to be seen that without its blanks a text has no placeholder that
it has not with them (`isLiteral_trim`).
-/

namespace RamlDocs.Template

open Text (trim)

/-- Whether a piece is a character. -/
def Piece.isChar : Piece → Bool
  | .char _ => true
  | .hole _ => false

/-- Whether no placeholder is found in a text. -/
def isLiteral (cs : List Char) : Bool := (parse cs).all Piece.isChar

variable {cs rest : List Char}

/-! ## Texts without placeholders -/

theorem isLiteral_cons {c : Char} :
    isLiteral (c :: cs) = true ↔ hole? (c :: cs) = none ∧ isLiteral cs = true := by
  unfold isLiteral parse
  rw [piecesFrom]
  cases hole? (c :: cs) with
  | none => simp [Piece.isChar]
  | some p => simp [Piece.isChar]

theorem parse_of_isLiteral (h : isLiteral cs = true) : parse cs = cs.map .char := by
  induction cs with
  | nil => rfl
  | cons c cs ih =>
    obtain ⟨open_, rest⟩ := isLiteral_cons.mp h
    have tail := ih rest
    unfold parse at tail ⊢
    rw [piecesFrom, open_, List.map_cons]
    simp only [tail]

theorem isLiteral_left {ds : List Char} (h : isLiteral (cs ++ ds) = true) :
    isLiteral cs = true := by
  induction cs with
  | nil => rfl
  | cons c cs ih =>
    rw [List.cons_append] at h
    obtain ⟨open_, rest⟩ := isLiteral_cons.mp h
    refine isLiteral_cons.mpr ⟨?_, ih rest⟩
    cases found : hole? (c :: cs) with
    | none => rfl
    | some p =>
      -- what follows a placeholder does not break it
      obtain ⟨spelled, rest, split⟩ := exists_of_hole? found
      have further := spelled.hole?_append (rest ++ ds)
      rw [← List.append_assoc, ← split, List.cons_append, open_] at further
      cases further

theorem isLiteral_right {ds : List Char} (h : isLiteral (cs ++ ds) = true) :
    isLiteral ds = true := by
  induction cs with
  | nil => exact h
  | cons c cs ih => exact ih (isLiteral_cons.mp h).2

theorem isLiteral_trim (h : isLiteral cs = true) : isLiteral (trim cs) = true := by
  obtain ⟨before, after, -, -, split⟩ := Text.exists_blanks_trim cs
  rw [split] at h
  exact isLiteral_left (isLiteral_right h)

/-- Two opening brackets start every placeholder. -/
theorem isLiteral_of_contains (h : Text.contains ['<', '<'] cs = false) : isLiteral cs = true := by
  induction cs with
  | nil => rfl
  | cons c cs ih =>
    rw [Text.contains, Bool.or_eq_false_iff] at h
    refine isLiteral_cons.mpr ⟨?_, ih h.2⟩
    unfold hole? holeParts?
    split
    next after opened =>
      rw [opened] at h
      cases h.1
    next => rfl

/-! ## Filling in -/

theorem fillText_of_isLiteral (params : Params) {s : String} (h : isLiteral s.toList = true) :
    fillText params s = .ok (.text s) := by
  have chars : ∀ cs : List Char,
      (cs.map Piece.char).mapM (Piece.fill params) = .ok (cs.map fun c => [c]) := by
    intro cs
    rw [mapM_eq_ok_iff, List.forall₂_map_left_iff, List.forall₂_map_right_iff, List.forall₂_same]
    exact fun _ _ => rfl
  have open_ : wholeValue? params s.toList = none := by
    unfold wholeValue? whole?
    rw [parse_of_isLiteral (isLiteral_trim h)]
    rcases trim s.toList with _ | ⟨c, _ | ⟨d, cs⟩⟩ <;> rfl
  unfold fillText
  rw [open_, parse_of_isLiteral h, chars]
  simp [bind, Except.bind, ← List.flatMap_def]

/-! ## Values without placeholders -/

/-- Whether a key holds no placeholder. -/
def isLiteralKey : Key → Bool
  | .text s => isLiteral s.toList
  | _ => true

/-- Whether a scalar holds no placeholder. -/
def isLiteralScalar : Value → Bool
  | .text s => isLiteral s.toList
  | _ => true

/-- The values that hold no placeholder. -/
def literal : Vocabulary := ⟨isLiteralKey, isLiteralScalar, rfl⟩

theorem fillKey_of_isLiteralKey (params : Params) {k : Key} (h : isLiteralKey k = true) :
    fillKey params k = .ok k.toValue := by
  cases k with
  | text s => exact fillText_of_isLiteral params h
  | _ => rfl

theorem toKey_toValue (k : Key) : toKey k.toValue = .ok k := by
  cases k <;> rfl

theorem fillItems_eq_ok (params : Params) {vs : List Value}
    (h : ∀ v ∈ vs, fill params v = .ok v) : fillItems params vs = .ok vs := by
  rw [fillItems_eq_mapM, mapM_eq_ok_iff, List.forall₂_same]
  exact h

theorem fillEntries_eq_ok (params : Params) {m : Mapping} (distinct : m.Distinct)
    (keys : ∀ e ∈ m, isLiteralKey e.1 = true) (h : ∀ e ∈ m, fill params e.2 = .ok e.2) :
    fillEntries params [] m = .ok m := by
  have filled : m.mapM (filledEntry params) = .ok m := by
    rw [mapM_eq_ok_iff, List.forall₂_same]
    intro e mem
    unfold filledEntry
    simp only [fillKey_of_isLiteralKey params (keys e mem), h e mem, toKey_toValue, ok_bind]
  rw [fillEntries_eq_mapM, filled]
  exact congrArg Except.ok (Mapping.overlay_of_distinct distinct)

theorem fill_of_within (params : Params) {v : Value} (h : v.within literal = true) :
    fill params v = .ok v := by
  refine Value.within_induction (P := fun v => fill params v = .ok v) ?_ ?_ ?_ v h
  · intro v leaf scalar
    cases v with
    | list vs => cases leaf
    | map m => cases leaf
    | text s =>
      rw [fill]
      exact fillText_of_isLiteral params scalar
    | _ => rfl
  · intro vs all
    rw [fill, fillItems_eq_ok params all]
    rfl
  · intro m within all
    obtain ⟨distinct, own⟩ := entriesWithin_iff.mp within
    have filled : fillEntries params [] m = .ok m :=
      fillEntries_eq_ok params distinct (fun e mem => (own e mem).1) all
    rw [fill, filled]
    rfl

theorem fillEntries_of_within (params : Params) {m : Mapping}
    (h : entriesWithin literal m = true) : fillEntries params [] m = .ok m := by
  obtain ⟨distinct, own⟩ := entriesWithin_iff.mp h
  have values : ∀ e ∈ m, fill params e.2 = .ok e.2 :=
    fun e mem => fill_of_within params (own e mem).2
  exact fillEntries_eq_ok params distinct (fun e mem => (own e mem).1) values

end RamlDocs.Template
