import RamlDocs.Proofs.Template.Fill
import RamlDocs.Proofs.Value.Every
import RamlDocs.Proofs.Value.Ordinary

/-!
# When templates can be filled in

Two things stand in the way of filling in a template, and no others
(`fill_returns_or_fails`): a key that is one placeholder alone whose parameter is a list, a mapping
or another container, which cannot be a key, and a placeholder inside of longer text or with a
transformation whose parameter holds an integer that is too long to be written. So parameters that
are texts, short numbers, booleans or null can be put in anywhere (`returns_fill_of_scalars`).
-/

namespace RamlDocs.Template

variable {params : Params}

/-- Whether a piece can be put into a text: the value of a known parameter has to be written. -/
def Piece.fits (params : Params) : Piece → Bool
  | .char _ => true
  | .hole p => (params.lookup (String.ofList p.name)).all Value.isWritable

/-- Whether a text can be filled in: it is taken whole, or all its pieces can be put in. -/
def textFits (params : Params) (s : String) : Bool :=
  (wholeValue? params s.toList).isSome || (parse s.toList).all (Piece.fits params)

/-- Whether a key can be filled in and is a key then: a value it is taken whole for is no
container. -/
def keyFits (params : Params) : Key → Bool
  | .text s => textFits params s && (wholeValue? params s.toList).all fun v => v.key?.isSome
  | _ => true

/-- Whether all keys of a mapping can be filled in. -/
def keysFit (params : Params) (m : Mapping) : Bool := m.all fun e => keyFits params e.1

/-! ## Texts and keys -/

theorem Piece.returns_fill_iff (piece : Piece) :
    Returns (piece.fill params) ↔ piece.fits params = true := by
  cases piece with
  | char c => exact iff_of_true ⟨_, rfl, trivial⟩ rfl
  | hole p =>
    simp only [fill, fits]
    cases params.lookup (String.ofList p.name) with
    | none => exact iff_of_true ⟨_, rfl, trivial⟩ rfl
    | some v => exact returns_map_iff.trans Value.returns_asText_iff

theorem returns_fillText_iff (s : String) :
    Returns (fillText params s) ↔ textFits params s = true := by
  unfold fillText textFits
  cases wholeValue? params s.toList with
  | some v => exact iff_of_true ⟨v, rfl, trivial⟩ rfl
  | none =>
    rw [Option.isSome_none, Bool.false_or, List.all_eq_true]
    refine Iff.trans ?_ (returns_mapM_iff.trans (forall₂_congr fun piece _ =>
      piece.returns_fill_iff))
    cases (parse s.toList).mapM (Piece.fill params) <;> simp [Yields, bind, Except.bind]

theorem returns_toKey_iff {v : Value} : Returns (toKey v) ↔ v.key?.isSome = true := by
  unfold toKey
  cases v.key? <;> simp [Yields]

theorem fillText_of_wholeValue? {s : String} {v : Value}
    (h : wholeValue? params s.toList = some v) : fillText params s = .ok v := by
  rw [fillText, h]

/-- A text that is put together from pieces is a text again. -/
theorem exists_text_of_fillText {s : String} {v : Value}
    (h : wholeValue? params s.toList = none) (filled : fillText params s = .ok v) :
    ∃ t, v = .text t := by
  rw [fillText, h] at filled
  obtain ⟨pieces, -, made⟩ := bind_eq_ok.mp filled
  exact ⟨_, (Except.ok.inj made).symm⟩

theorem returns_key_iff (k : Key) :
    Returns (fillKey params k >>= toKey) ↔ keyFits params k = true := by
  cases k with
  | text s =>
    show Returns (fillText params s >>= toKey) ↔
      (textFits params s && (wholeValue? params s.toList).all fun v => v.key?.isSome) = true
    rw [Bool.and_eq_true, ← returns_fillText_iff]
    cases whole : wholeValue? params s.toList with
    | some v =>
      rw [fillText_of_wholeValue? whole, ok_bind, returns_toKey_iff, Option.all_some]
      exact (and_iff_right ⟨v, rfl, trivial⟩).symm
    | none =>
      rw [Option.all_none, and_iff_left rfl]
      cases filled : fillText params s with
      | error f => simp [Yields, error_bind]
      | ok v =>
        obtain ⟨t, rfl⟩ := exists_text_of_fillText whole filled
        exact iff_of_true ⟨.text t, rfl, trivial⟩ ⟨.text t, rfl, trivial⟩
  | _ => exact iff_of_true ⟨_, rfl, trivial⟩ rfl

theorem returns_filledEntry_iff (e : Key × Value) :
    Returns (filledEntry params e) ↔ keyFits params e.1 = true ∧ Returns (fill params e.2) := by
  rw [← returns_key_iff]
  constructor
  · rintro ⟨f, came, -⟩
    obtain ⟨key, value⟩ := filledEntry_eq_ok_iff.mp came
    exact ⟨⟨_, key, trivial⟩, ⟨_, value, trivial⟩⟩
  · rintro ⟨⟨k, key, -⟩, ⟨w, value, -⟩⟩
    exact ⟨(k, w), filledEntry_eq_ok_iff.mpr ⟨key, value⟩, trivial⟩

/-! ## Faults -/

/-- A fault that filling in a template can end in. -/
def IsFillFault (f : Fault) : Prop := f = .longInteger ∨ ∃ kind, f = .containerKey kind

theorem isFillFault_of_fillText {s : String} {f : Fault} (h : fillText params s = .error f) :
    IsFillFault f := by
  unfold fillText at h
  split at h
  next => cases h
  next =>
    rcases bind_eq_error.mp h with fails | ⟨_, _, other⟩
    · obtain ⟨piece, -, own⟩ := exists_of_mapM_eq_error fails
      unfold Piece.fill at own
      split at own
      next => cases own
      next p =>
        split at own
        next => cases own
        next v _ =>
          rw [map_eq_error] at own
          unfold Value.asText at own
          split at own
          next => cases own
          next => exact .inl (Except.error.inj own).symm
    · cases other

theorem isFillFault_of_filledEntry {e : Key × Value} {f : Fault}
    (value : ∀ f, fill params e.2 = .error f → IsFillFault f)
    (h : filledEntry params e = .error f) : IsFillFault f := by
  unfold filledEntry at h
  rcases bind_eq_error.mp h with key | ⟨name, -, h⟩
  · cases hk : e.1 with
    | text s =>
      rw [hk] at key
      exact isFillFault_of_fillText key
    | _ =>
      rw [hk] at key
      cases key
  · rcases bind_eq_error.mp h with inner | ⟨w, -, h⟩
    · exact value f inner
    · rcases bind_eq_error.mp h with container | ⟨l, -, h⟩
      · unfold toKey at container
        split at container
        next => cases container
        next => exact .inr ⟨_, (Except.error.inj container).symm⟩
      · cases h

theorem isFillFault_of_fill (v : Value) : ∀ f, fill params v = .error f → IsFillFault f := by
  refine Value.induction (P := fun v => ∀ f, fill params v = .error f → IsFillFault f)
    ?_ ?_ ?_ v
  · intro v leaf f h
    cases v with
    | list vs => cases leaf
    | map m => cases leaf
    | text s => exact isFillFault_of_fillText h
    | _ => cases h
  · intro vs all f h
    rw [fill, map_eq_error, fillItems_eq_mapM] at h
    obtain ⟨v, mem, own⟩ := exists_of_mapM_eq_error h
    exact all v mem f own
  · intro m all f h
    rw [fill, map_eq_error, fillEntries_eq_mapM, map_eq_error] at h
    obtain ⟨e, mem, own⟩ := exists_of_mapM_eq_error h
    exact isFillFault_of_filledEntry (all e mem) own

/-! ## Values -/

/-- A template can be filled in if and only if no text of it has to take up a value that cannot be
written and no key of it comes to be a container, at any depth. -/
theorem returns_fill_iff (v : Value) :
    Returns (fill params v) ↔ v.every (textFits params) (keysFit params) = true := by
  refine Value.induction (P := fun v => Returns (fill params v) ↔
    v.every (textFits params) (keysFit params) = true) ?_ ?_ ?_ v
  · intro v leaf
    cases v with
    | list vs => cases leaf
    | map m => cases leaf
    | text s => exact returns_fillText_iff s
    | _ => exact iff_of_true ⟨_, rfl, trivial⟩ rfl
  · intro vs all
    rw [fill, returns_map_iff, fillItems_eq_mapM, returns_mapM_iff, Value.every, everyItem_iff]
    exact forall₂_congr all
  · intro m all
    rw [fill, returns_map_iff, fillEntries_eq_mapM, returns_map_iff, returns_mapM_iff,
      Value.every_map_iff, keysFit, List.all_eq_true, ← forall₂_and]
    exact forall₂_congr fun e mem =>
      (returns_filledEntry_iff e).trans (and_congr_right fun _ => all e mem)

/-- Filling in comes to a value where everything fits, and ends in one of two faults where something
does not: an integer that is too long to be written, or a container in key position. -/
theorem fill_returns_or_fails (params : Params) (v : Value) :
    if v.every (textFits params) (keysFit params) = true then Returns (fill params v)
    else fill params v = .error .longInteger ∨
      ∃ kind, fill params v = .error (.containerKey kind) := by
  split
  next fits => exact (returns_fill_iff v).mpr fits
  next misfit =>
    cases came : fill params v with
    | ok w => exact absurd ((returns_fill_iff v).mp ⟨w, came, trivial⟩) misfit
    | error f =>
      rcases isFillFault_of_fill v f came with rfl | ⟨kind, rfl⟩
      · exact .inl rfl
      · exact .inr ⟨kind, rfl⟩

/-- The parameters of a reference can be such that a template they are meant for cannot be filled
in: a list given for a placeholder that is a whole key. -/
theorem fill_list_in_key_position :
    fill (Params.ofMapping [(.text "p", .list [])]) (.map [(.text "<<p>>", .null)]) =
      .error (.containerKey "list") :=
  fault?_eq_some_iff.mp (by decide +kernel)

/-! ## Parameters that fit everywhere -/

/-- Parameters that are no containers and can be written. -/
def Params.AreScalar (params : Params) : Prop :=
  ∀ p ∈ params, p.2.isWritable = true ∧ p.2.key?.isSome = true

theorem Params.AreScalar.lookup (scalar : params.AreScalar) {name : String} {v : Value}
    (h : params.lookup name = some v) : v.isWritable = true ∧ v.key?.isSome = true :=
  scalar (name, v) (Params.mem_of_lookup h)

theorem textFits_of_scalars (scalar : params.AreScalar) (s : String) :
    textFits params s = true := by
  have pieces : ∀ piece : Piece, piece.fits params = true := by
    intro piece
    cases piece with
    | char c => rfl
    | hole p => exact (Option.all_eq_true _ _).mpr fun v found => (scalar.lookup found).1
  rw [textFits, Bool.or_eq_true]
  exact .inr (List.all_eq_true.mpr fun piece _ => pieces piece)

theorem keyFits_of_scalars (scalar : params.AreScalar) (k : Key) : keyFits params k = true := by
  cases k with
  | text s =>
    refine Bool.and_eq_true_iff.mpr ⟨textFits_of_scalars scalar s, ?_⟩
    refine (Option.all_eq_true _ _).mpr fun v found => ?_
    obtain ⟨p, -, -, known⟩ := wholeValue?_eq_some_iff.mp found
    exact (scalar.lookup known).2
  | _ => rfl

/-- Texts, short numbers, booleans and null can be put in wherever a placeholder stands. -/
theorem returns_fill_of_scalars (scalar : params.AreScalar) (v : Value) :
    Returns (fill params v) :=
  (returns_fill_iff v).mpr (Value.every_of_forall (textFits_of_scalars scalar)
    (fun _ => List.all_eq_true.mpr fun e _ => keyFits_of_scalars scalar e.1) v)

end RamlDocs.Template
