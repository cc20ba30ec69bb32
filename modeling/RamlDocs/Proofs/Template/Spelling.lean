import Mathlib.Data.List.TakeDrop
import Mathlib.Data.List.TakeWhile
import RamlDocs.Proofs.Text.Pieces
import RamlDocs.Template.Placeholder

/-!
# How placeholders stand in a text

A placeholder ends at its closing brackets, and what follows them has no part in it
(`exists_of_holeParts?`). So the pieces of a text can be told in both directions: put one after the
other they are the text again (`flatMap_source_parse`), and pieces that were put together are found
as they were, provided that no opening bracket stands among the characters (`parse_flatMap_source`).
Nothing is found across a joint.

A text is taken whole if it is one placeholder between blanks (`whole?_eq_some_iff`).
-/

namespace RamlDocs.Template

open Text (trim trimLeft trimRight isBlank)

variable {cs rest : List Char}

/-! ## Blanks and spans before a mark -/

/-- Blanks may be followed by any text that begins with the same mark. -/
theorem exists_of_trimLeft {c : Char} (h : trimLeft cs = c :: rest) :
    ∃ blanks, cs = blanks ++ c :: rest ∧ ∀ ds, trimLeft (blanks ++ c :: ds) = c :: ds := by
  have solid := Text.isBlank_of_trimLeft h
  have blank : ∀ b ∈ cs.takeWhile isBlank, isBlank b = true := fun b mem =>
    List.mem_takeWhile_imp mem
  refine ⟨cs.takeWhile isBlank, ?_, ?_⟩
  · rw [← h]
    exact (List.takeWhile_append_dropWhile (p := isBlank) (l := cs)).symm
  · intro ds
    unfold trimLeft
    rw [List.dropWhile_append_of_pos blank, List.dropWhile_cons_of_neg (by simp [solid])]

/-- A span and the blanks behind it may be followed by any text that begins with the same mark. -/
theorem exists_of_span {p : Char → Bool} {c : Char} (h : trimLeft (cs.dropWhile p) = c :: rest) :
    ∃ blanks, cs = cs.takeWhile p ++ (blanks ++ c :: rest) ∧ ∀ ds,
      (cs.takeWhile p ++ (blanks ++ c :: ds)).span p = (cs.takeWhile p, blanks ++ c :: ds) ∧
        trimLeft (blanks ++ c :: ds) = c :: ds := by
  obtain ⟨blanks, left, open_⟩ := exists_of_trimLeft h
  have taken : ∀ d ∈ cs.takeWhile p, p d = true := fun d mem => List.mem_takeWhile_imp mem
  have stops := List.head?_dropWhile_not p cs
  have text := (List.takeWhile_append_dropWhile (p := p) (l := cs)).symm
  rw [left] at stops text
  refine ⟨blanks, text, fun ds => ⟨?_, open_ ds⟩⟩
  -- the first character behind the span is a blank or the mark, whatever comes later
  have ends : (blanks ++ c :: ds).takeWhile p = [] ∧
      (blanks ++ c :: ds).dropWhile p = blanks ++ c :: ds := by
    cases blanks with
    | nil => simpa using stops
    | cons b blanks => simpa using stops
  rw [List.span_eq_takeWhile_dropWhile, List.takeWhile_append_of_pos taken,
    List.dropWhile_append_of_pos taken, ends.1, ends.2, List.append_nil]

/-! ## What follows a placeholder -/

theorem close?_eq_some_iff : close? cs = some rest ↔ cs = '>' :: '>' :: rest := by
  constructor
  · intro h
    unfold close? at h
    split at h
    · rw [Option.some.inj h]
    · cases h
  · rintro rfl
    rfl

theorem exists_of_transform? {word : List Char} (h : transform? cs = some (word, rest)) :
    ∃ inner, cs = inner ++ '>' :: '>' :: rest ∧
      ∀ ds, transform? (inner ++ '>' :: '>' :: ds) = some (word, ds) := by
  unfold transform? at h
  split at h
  next after start =>
    rw [List.span_eq_takeWhile_dropWhile] at h
    simp only at h
    split at h
    next => cases h
    next nonempty =>
      obtain ⟨left, closed, same⟩ := Option.map_eq_some_iff.mp h
      cases same
      obtain ⟨blanks, text, open_⟩ := exists_of_trimLeft start
      obtain ⟨gap, spelled, ends⟩ := exists_of_span (close?_eq_some_iff.mp closed)
      refine ⟨blanks ++ '!' :: (after.takeWhile Text.isWord ++ gap), ?_, fun ds => ?_⟩
      · rw [text]
        nth_rewrite 1 [spelled]
        simp
      · obtain ⟨span, trimmed⟩ := ends ('>' :: ds)
        have marked := open_ (after.takeWhile Text.isWord ++ (gap ++ '>' :: '>' :: ds))
        have shape : blanks ++ '!' :: (after.takeWhile Text.isWord ++ gap) ++ '>' :: '>' :: ds =
            blanks ++ '!' :: (after.takeWhile Text.isWord ++ (gap ++ '>' :: '>' :: ds)) := by
          simp
        rw [shape]
        unfold transform?
        rw [marked]
        simp only [span, trimmed, if_neg nonempty]
        rfl
  next => cases h

/-- What follows the name of a parameter: a bar and a transformation, or the brackets at once. -/
def afterName? (name : List Char) :
    List Char → Option (List Char × Option (List Char) × List Char)
  | '|' :: cs => (transform? cs).map fun t => (name, some t.1, t.2)
  | cs => (close? cs).map fun rest => (name, none, rest)

theorem holeParts?_of_trimLeft {c : Char} {more : List Char} (h : trimLeft cs = c :: more) :
    holeParts? ('<' :: '<' :: cs) =
      if isNameStart c then
        afterName? (c :: more.takeWhile isNameChar) (trimLeft (more.dropWhile isNameChar))
      else none := by
  unfold holeParts?
  simp only [h, List.span_eq_takeWhile_dropWhile]
  rfl

/-- Behind the name stands something that is no blank and ends in the brackets. -/
theorem exists_of_afterName? {name n : List Char} {t : Option (List Char)}
    (h : afterName? name cs = some (n, t, rest)) :
    ∃ c inner front, c :: inner = front ++ ['>', '>'] ∧ cs = c :: (inner ++ rest) ∧
      ∀ ds, afterName? name (c :: (inner ++ ds)) = some (n, t, ds) := by
  unfold afterName? at h
  split at h
  next after =>
    obtain ⟨⟨word, left⟩, transformed, same⟩ := Option.map_eq_some_iff.mp h
    cases same
    obtain ⟨inner, behind, further⟩ := exists_of_transform? transformed
    refine ⟨'|', inner ++ ['>', '>'], '|' :: inner, rfl, by simp [behind], fun ds => ?_⟩
    have worded : transform? (inner ++ ['>', '>'] ++ ds) = some (word, ds) := by
      simpa using further ds
    rw [afterName?, worded]
    rfl
  next =>
    obtain ⟨left, closed, same⟩ := Option.map_eq_some_iff.mp h
    cases same
    exact ⟨'>', ['>'], [], rfl, close?_eq_some_iff.mp closed, fun ds => rfl⟩

/-- A placeholder is found up to its closing brackets, whatever follows them. -/
theorem exists_of_holeParts? {name : List Char} {t : Option (List Char)}
    (h : holeParts? cs = some (name, t, rest)) :
    ∃ inner, cs = '<' :: '<' :: (inner ++ '>' :: '>' :: rest) ∧
      ∀ ds, holeParts? ('<' :: '<' :: (inner ++ '>' :: '>' :: ds)) = some (name, t, ds) := by
  obtain ⟨after, rfl⟩ : ∃ after, cs = '<' :: '<' :: after := by
    unfold holeParts? at h
    split at h
    next after => exact ⟨after, rfl⟩
    next => cases h
  cases start : trimLeft after with
  | nil =>
    unfold holeParts? at h
    simp [start] at h
  | cons c more =>
    rw [holeParts?_of_trimLeft start] at h
    split at h
    next begins =>
      obtain ⟨d, inner, front, closes, behind, further⟩ := exists_of_afterName? h
      obtain ⟨blanks, text, open_⟩ := exists_of_trimLeft start
      obtain ⟨gap, spelled, ends⟩ := exists_of_span behind
      -- the text up to the brackets, and what stands there with other characters behind it
      have shape : ∀ ds, blanks ++ c :: (more.takeWhile isNameChar ++ (gap ++ front)) ++
            '>' :: '>' :: ds =
          blanks ++ c :: (more.takeWhile isNameChar ++ (gap ++ d :: (inner ++ ds))) := by
        intro ds
        have mark : d :: (inner ++ ds) = front ++ '>' :: '>' :: ds := by
          rw [← List.cons_append, closes]
          simp
        rw [mark]
        simp
      refine ⟨blanks ++ c :: (more.takeWhile isNameChar ++ (gap ++ front)), ?_, fun ds => ?_⟩
      · rw [shape, ← spelled, ← text]
      · obtain ⟨span, trimmed⟩ := ends (inner ++ ds)
        rw [List.span_eq_takeWhile_dropWhile] at span
        obtain ⟨taken, dropped⟩ := Prod.mk.inj span
        rw [shape, holeParts?_of_trimLeft (open_ _), if_pos begins, taken, dropped, trimmed]
        exact further ds
    next => cases h

/-! ## A text and its pieces -/

/-- The placeholder stands as it is written, between its brackets and whatever follows it. -/
def Placeholder.Spelled (p : Placeholder) : Prop :=
  ∃ inner, p.source = '<' :: ('<' :: (inner ++ ['>']) ++ ['>']) ∧
    ∀ ds, holeParts? (p.source ++ ds) = some (p.name, p.transform, ds)

/-- A character other than the opening bracket, or a placeholder as it is written. -/
def Piece.Sound : Piece → Prop
  | .char c => c ≠ '<'
  | .hole p => p.Spelled

variable {p : Placeholder}

theorem Placeholder.Spelled.hole?_append (h : p.Spelled) (ds : List Char) :
    hole? (p.source ++ ds) = some p := by
  obtain ⟨-, -, found⟩ := h
  unfold hole?
  rw [found ds]
  simp

theorem exists_of_hole? (h : hole? cs = some p) : p.Spelled ∧ ∃ rest, cs = p.source ++ rest := by
  obtain ⟨⟨name, t, rest⟩, parts, rfl⟩ := Option.map_eq_some_iff.mp h
  obtain ⟨inner, text, further⟩ := exists_of_holeParts? parts
  have split : cs = '<' :: ('<' :: (inner ++ ['>']) ++ ['>']) ++ rest := by simp [text]
  have source : cs.take (cs.length - rest.length) = '<' :: ('<' :: (inner ++ ['>']) ++ ['>']) := by
    rw [split, List.length_append, Nat.add_sub_cancel, List.take_left]
  refine ⟨⟨inner, source, fun ds => ?_⟩, rest, ?_⟩
  · simpa [source] using further ds
  · simpa only [source] using split

theorem hole?_of_ne {c : Char} (other : c ≠ '<') (cs : List Char) : hole? (c :: cs) = none := by
  unfold hole? holeParts?
  split
  next after opened => exact absurd (List.cons.inj opened).1 other
  next => rfl

theorem piecesFrom_eq_parse_drop (skip : Nat) (cs : List Char) :
    piecesFrom skip cs = parse (cs.drop skip) := by
  induction cs generalizing skip with
  | nil => cases skip <;> rfl
  | cons c cs ih =>
    cases skip with
    | zero => rfl
    | succ skip => exact ih skip

theorem parse_source_append (h : p.Spelled) (cs : List Char) :
    parse (p.source ++ cs) = .hole p :: parse cs := by
  have found := h.hole?_append cs
  obtain ⟨inner, source, -⟩ := h
  rw [source, List.cons_append] at found ⊢
  have first : parse ('<' :: ('<' :: (inner ++ ['>']) ++ ['>'] ++ cs)) =
      .hole p :: piecesFrom (p.source.length - 1) ('<' :: (inner ++ ['>']) ++ ['>'] ++ cs) := by
    rw [parse, piecesFrom, found]
  rw [first, piecesFrom_eq_parse_drop, source, List.length_cons, Nat.add_sub_cancel,
    List.drop_left]

theorem parse_cons_of_ne {c : Char} (other : c ≠ '<') (cs : List Char) :
    parse (c :: cs) = .char c :: parse cs := by
  rw [parse, piecesFrom, hole?_of_ne other]
  rfl

/-- Sound pieces that are put one after the other are found again. -/
theorem parse_flatMap_source {ps : List Piece} (sound : ∀ piece ∈ ps, piece.Sound) :
    parse (ps.flatMap Piece.source) = ps := by
  induction ps with
  | nil => rfl
  | cons piece ps ih =>
    obtain ⟨own, rest⟩ := List.forall_mem_cons.mp sound
    rw [List.flatMap_cons]
    cases piece with
    | char c => exact (parse_cons_of_ne own _).trans (congrArg _ (ih rest))
    | hole p => exact (parse_source_append own _).trans (congrArg _ (ih rest))

theorem flatMap_source_map_char (cs : List Char) :
    (cs.map Piece.char).flatMap Piece.source = cs := by
  rw [List.flatMap_map]
  exact List.flatMap_singleton' cs

/-- The pieces of a text are the text, and its placeholders stand as they are written. -/
theorem flatMap_source_parse (cs : List Char) :
    (parse cs).flatMap Piece.source = cs ∧ ∀ p, .hole p ∈ parse cs → p.Spelled := by
  suffices from_ : ∀ (skip : Nat) (cs : List Char),
      (piecesFrom skip cs).flatMap Piece.source = cs.drop skip ∧
        ∀ p, .hole p ∈ piecesFrom skip cs → p.Spelled from from_ 0 cs
  intro skip cs
  fun_induction piecesFrom skip cs with
  | case1 skip => simp
  | case2 skip c cs ih => exact ih
  | case3 c cs p found ih =>
    obtain ⟨text, inside⟩ := ih
    obtain ⟨spelled, rest, split⟩ := exists_of_hole? found
    have behind : cs.drop (p.source.length - 1) = rest := by
      obtain ⟨inner, source, -⟩ := spelled
      rw [source] at split ⊢
      obtain ⟨-, rfl⟩ := List.cons.inj split
      simp
    refine ⟨?_, ?_⟩
    · rw [List.flatMap_cons, text, behind, List.drop_zero, split]
      rfl
    · intro q mem
      rcases List.mem_cons.mp mem with same | later
      · cases same
        exact spelled
      · exact inside q later
  | case4 c cs absent ih =>
    obtain ⟨text, inside⟩ := ih
    refine ⟨?_, ?_⟩
    · rw [List.flatMap_cons, text]
      rfl
    · intro q mem
      rcases List.mem_cons.mp mem with same | later
      · cases same
      · exact inside q later

/-! ## A text that is one placeholder -/

theorem whole?_eq_some_iff :
    whole? cs = some p ↔ p.Spelled ∧ ∃ before after, (∀ b ∈ before, isBlank b = true) ∧
      (∀ a ∈ after, isBlank a = true) ∧ cs = before ++ (p.source ++ after) := by
  constructor
  · intro h
    have alone : parse (trim cs) = [.hole p] := by
      unfold whole? at h
      split at h
      next q single => rw [single, Option.some.inj h]
      next => cases h
    obtain ⟨text, inside⟩ := flatMap_source_parse (trim cs)
    rw [alone] at text inside
    obtain ⟨before, after, hb, ha, split⟩ := Text.exists_blanks_trim cs
    have source : trim cs = p.source := by simpa [Piece.source] using text.symm
    rw [source] at split
    exact ⟨inside p List.mem_cons_self, before, after, hb, ha, split⟩
  · rintro ⟨spelled, before, after, hb, ha, rfl⟩
    have trimmed : trim (before ++ (p.source ++ after)) = p.source := by
      obtain ⟨inner, source, -⟩ := spelled
      rw [source]
      exact Text.trim_between hb ha (by decide) (by decide)
    have alone : parse p.source = [.hole p] := by
      rw [← List.append_nil p.source]
      exact parse_source_append spelled []
    unfold whole?
    rw [trimmed, alone]

/-- A text that is one placeholder has no other pieces than this and blanks. -/
theorem pieces_of_whole? (h : whole? cs = some p) :
    .hole p ∈ parse cs ∧
      ∀ piece ∈ parse cs, piece = .hole p ∨ ∃ c, piece = .char c ∧ isBlank c = true := by
  obtain ⟨spelled, before, after, hb, ha, rfl⟩ := whole?_eq_some_iff.mp h
  have noBracket : ∀ c, isBlank c = true → c ≠ '<' := by
    rintro c blank rfl
    exact absurd blank (by decide)
  have sound : ∀ piece ∈ before.map Piece.char ++ .hole p :: after.map Piece.char,
      piece.Sound := by
    rw [List.forall_mem_append, List.forall_mem_cons, List.forall_mem_map, List.forall_mem_map]
    exact ⟨fun c mem => noBracket c (hb c mem), spelled, fun c mem => noBracket c (ha c mem)⟩
  have text : (before.map Piece.char ++ .hole p :: after.map Piece.char).flatMap Piece.source =
      before ++ (p.source ++ after) := by
    rw [List.flatMap_append, List.flatMap_cons, flatMap_source_map_char, flatMap_source_map_char]
    rfl
  rw [← text, parse_flatMap_source sound]
  refine ⟨List.mem_append_right _ List.mem_cons_self, fun piece mem => ?_⟩
  rcases List.mem_append.mp mem with left | right
  · obtain ⟨c, inside, rfl⟩ := List.mem_map.mp left
    exact .inr ⟨c, rfl, hb c inside⟩
  · rcases List.mem_cons.mp right with rfl | later
    · exact .inl rfl
    · obtain ⟨c, inside, rfl⟩ := List.mem_map.mp later
      exact .inr ⟨c, rfl, ha c inside⟩

end RamlDocs.Template
