import Mathlib.Data.List.DropRight
import Mathlib.Data.List.TakeWhile
import RamlDocs.Text.Blank

/-!
# Pieces and edges of texts

Splitting a text at a character and trimming the blanks off its ends, as laws. The pieces with the
character between them are the text again (`intercalate_splitWhere`), no piece holds the character
(`not_mem_of_mem_splitWhere`), and a trimmed text has nothing left to trim (`trimmed_trimmed`).
-/

namespace RamlDocs.Text

variable {c : Char} {cs : List Char}

/-- What holds of all ASCII characters can be checked one by one. -/
theorem forall_ascii {P : Char → Prop} (each : ∀ n < 0x80, P (Char.ofNat n))
    (ascii : c.toNat < 0x80) : P c := by
  have own := each c.toNat ascii
  rwa [Char.ofNat_toNat] at own

/-! ## Splitting -/

theorem splitWhere_ne_nil (p : Char → Bool) (cs : List Char) : splitWhere p cs ≠ [] := by
  cases cs with
  | nil => simp [splitWhere]
  | cons c cs =>
    unfold splitWhere
    split
    · simp
    · split <;> simp

/-- A character that separates starts a new piece. -/
theorem splitWhere_cons_of_pos {p : Char → Bool} (h : p c = true) :
    splitWhere p (c :: cs) = [] :: splitWhere p cs := by
  rw [splitWhere, if_pos h]

/-- Any other character goes to the front of the first piece. -/
theorem splitWhere_cons_of_neg {p : Char → Bool} (h : p c = false) {piece : List Char}
    {rest : List (List Char)} (hs : splitWhere p cs = piece :: rest) :
    splitWhere p (c :: cs) = (c :: piece) :: rest := by
  rw [splitWhere, if_neg (by simp [h]), hs]

theorem intercalate_splitWhere (c : Char) (cs : List Char) :
    [c].intercalate (splitWhere (· == c) cs) = cs := by
  induction cs with
  | nil => rfl
  | cons d cs ih =>
    obtain ⟨piece, rest, hs⟩ := List.exists_cons_of_ne_nil (splitWhere_ne_nil (· == c) cs)
    rw [hs] at ih
    by_cases hd : d = c
    · rw [splitWhere_cons_of_pos (by simpa using hd), hs]
      rw [List.intercalate_cons_cons, ih, hd]
      rfl
    · rw [splitWhere_cons_of_neg (by simpa using hd) hs]
      cases rest with
      | nil => simpa [List.intercalate] using ih
      | cons next rest =>
        rw [List.intercalate_cons_cons] at ih ⊢
        rw [List.cons_append, List.cons_append, ih]

/-- What is left without the characters that separate. -/
theorem flatten_splitWhere (p : Char → Bool) (cs : List Char) :
    (splitWhere p cs).flatten = cs.filter fun c => !p c := by
  induction cs with
  | nil => rfl
  | cons c cs ih =>
    by_cases sep : p c = true
    · rw [splitWhere_cons_of_pos sep, List.flatten_cons, ih,
        List.filter_cons_of_neg (by simpa using sep), List.nil_append]
    · rw [Bool.not_eq_true] at sep
      obtain ⟨piece, rest, hs⟩ := List.exists_cons_of_ne_nil (splitWhere_ne_nil p cs)
      rw [hs] at ih
      rw [splitWhere_cons_of_neg sep hs, List.filter_cons_of_pos (by simpa using sep), ← ih]
      rfl

theorem not_mem_of_mem_splitWhere {piece : List Char} (h : piece ∈ splitWhere (· == c) cs) :
    c ∉ piece := by
  induction cs generalizing piece with
  | nil => simp_all [splitWhere]
  | cons d cs ih =>
    obtain ⟨first, rest, hs⟩ := List.exists_cons_of_ne_nil (splitWhere_ne_nil (· == c) cs)
    by_cases hd : d = c
    · rw [splitWhere_cons_of_pos (by simpa using hd)] at h
      rcases List.mem_cons.mp h with rfl | h
      · exact List.not_mem_nil
      · exact ih h
    · rw [splitWhere_cons_of_neg (by simpa using hd) hs] at h
      rw [hs] at ih
      rcases List.mem_cons.mp h with rfl | h
      · have := ih List.mem_cons_self
        simp [this, Ne.symm hd]
      · exact ih (List.mem_cons_of_mem _ h)

/-- A text without separators is its only piece. -/
theorem splitWhere_of_free {p : Char → Bool} (free : ∀ c ∈ cs, p c = false) :
    splitWhere p cs = [cs] := by
  induction cs with
  | nil => rfl
  | cons c cs ih =>
    obtain ⟨own, rest⟩ := List.forall_mem_cons.mp free
    exact splitWhere_cons_of_neg own (ih rest)

/-- A separator splits a text into the pieces before it and the pieces behind it. -/
theorem splitWhere_append {p : Char → Bool} (sep : p c = true) (as bs : List Char) :
    splitWhere p (as ++ c :: bs) = splitWhere p as ++ splitWhere p bs := by
  induction as with
  | nil => exact splitWhere_cons_of_pos sep
  | cons a as ih =>
    rw [List.cons_append]
    by_cases own : p a = true
    · rw [splitWhere_cons_of_pos own, splitWhere_cons_of_pos own, ih, List.cons_append]
    · rw [Bool.not_eq_true] at own
      obtain ⟨piece, rest, hs⟩ := List.exists_cons_of_ne_nil (splitWhere_ne_nil p as)
      rw [hs, List.cons_append] at ih
      rw [splitWhere_cons_of_neg own ih, splitWhere_cons_of_neg own hs, List.cons_append]

/-- What stands before the first separator is the first piece. -/
theorem splitWhere_append_cons {p : Char → Bool} {as : List Char} (sep : p c = true)
    (free : ∀ a ∈ as, p a = false) (bs : List Char) :
    splitWhere p (as ++ c :: bs) = as :: splitWhere p bs := by
  rw [splitWhere_append sep, splitWhere_of_free free, List.singleton_append]

/-- A text is split after its first separator first. -/
theorem splitAt_of_toList {s left right : String}
    (text : s.toList = left.toList ++ c :: right.toList) (free : c ∉ left.toList) :
    splitAt c s = left :: splitAt c right := by
  have apart : ∀ a ∈ left.toList, (a == c) = false :=
    fun a mem => by simpa using ne_of_mem_of_not_mem mem free
  rw [splitAt, text, splitWhere_append_cons (p := (· == c)) (beq_self_eq_true c) apart,
    List.map_cons, String.ofList_toList]
  rfl

theorem splitAt_of_not_mem {s : String} (free : c ∉ s.toList) : splitAt c s = [s] := by
  have apart : ∀ a ∈ s.toList, (a == c) = false :=
    fun a mem => by simpa using ne_of_mem_of_not_mem mem free
  rw [splitAt, splitWhere_of_free apart, List.map_singleton, String.ofList_toList]

/-- A text without the character is its only piece. -/
theorem splitAt_eq_singleton {s piece : String} (h : splitAt c s = [piece]) :
    piece = s ∧ c ∉ piece.toList := by
  obtain ⟨cs, hs, rfl⟩ := List.map_eq_singleton_iff.mp h
  have joined := intercalate_splitWhere c s.toList
  rw [hs] at joined
  have free : c ∉ cs := not_mem_of_mem_splitWhere (hs ▸ List.mem_singleton_self cs)
  refine ⟨?_, by simpa using free⟩
  rw [← String.ofList_toList (s := s), ← joined]
  simp [List.intercalate]

/-- A text with the character once is made of the two pieces around it. -/
theorem splitAt_eq_pair {s left right : String} (h : splitAt c s = [left, right]) :
    s = left ++ String.singleton c ++ right ∧ c ∉ right.toList := by
  unfold splitAt at h
  obtain ⟨as, rest, hs, rfl, hr⟩ := List.map_eq_cons_iff.mp h
  obtain ⟨bs, rfl, rfl⟩ := List.map_eq_singleton_iff.mp hr
  have joined := intercalate_splitWhere c s.toList
  rw [hs] at joined
  have last : bs ∈ splitWhere (· == c) s.toList := by simp [hs]
  have free := not_mem_of_mem_splitWhere last
  refine ⟨?_, by simpa using free⟩
  apply String.toList_injective
  simpa [List.intercalate] using joined.symm

/-! ## Trimming -/

/-- What is trimmed on the left does not begin with a blank. -/
theorem isBlank_of_trimLeft {rest : List Char} (h : trimLeft cs = c :: rest) :
    isBlank c = false := by
  have first := List.head?_dropWhile_not isBlank cs
  rw [← trimLeft, h] at first
  simpa using first

theorem trimLeft_trim (cs : List Char) : trimLeft (trim cs) = trim cs := by
  unfold trim
  cases h : trimLeft cs with
  | nil => rfl
  | cons c rest =>
    have solid := isBlank_of_trimLeft h
    -- the first character is no blank, so trimming the end stops there at the latest
    have kept : ∃ more, trimRight (c :: rest) = c :: more := by
      have prefixed : trimRight (c :: rest) <+: c :: rest := List.rdropWhile_prefix isBlank _
      cases ht : trimRight (c :: rest) with
      | nil =>
        have all := List.rdropWhile_eq_nil_iff.mp ht
        exact absurd (all c List.mem_cons_self) (by simp [solid])
      | cons d more =>
        rw [ht] at prefixed
        exact ⟨more, by rw [(List.cons_prefix_cons.mp prefixed).1]⟩
    obtain ⟨more, hm⟩ := kept
    rw [hm]
    exact List.dropWhile_cons_of_neg (by simp [solid])

theorem trimRight_trim (cs : List Char) : trimRight (trim cs) = trim cs :=
  List.rdropWhile_idempotent isBlank (trimLeft cs)

theorem trim_trim (cs : List Char) : trim (trim cs) = trim cs := by
  calc trim (trim cs) = trimRight (trimLeft (trim cs)) := rfl
    _ = trim cs := by rw [trimLeft_trim, trimRight_trim]

/-- A text that is trimmed already has nothing to trim at either end. -/
theorem ends_of_trimmed {s : String} (h : trimmed s = s) :
    trimLeft s.toList = s.toList ∧ trimRight s.toList = s.toList := by
  have text : trim s.toList = s.toList := by
    have := congrArg String.toList h
    simpa [trimmed] using this
  have left := trimLeft_trim s.toList
  have right := trimRight_trim s.toList
  rw [text] at left right
  exact ⟨left, right⟩

/-- Trimming goes no further than a character that is no blank. -/
theorem trimRight_append_cons (as : List Char) (solid : isBlank c = false) (bs : List Char) :
    trimRight (as ++ c :: bs) = as ++ c :: trimRight bs := by
  unfold trimRight dropRightWhile
  rw [List.reverse_append, List.reverse_cons, List.append_assoc, List.dropWhile_append]
  split
  next none_ =>
    have blank : bs.reverse.dropWhile isBlank = [] := by simpa using none_
    simp [blank, solid]
  next => simp

theorem trimLeft_append_cons {as : List Char} (start : trimLeft as = as)
    (solid : isBlank c = false) (bs : List Char) : trimLeft (as ++ c :: bs) = as ++ c :: bs := by
  cases as with
  | nil => exact List.dropWhile_cons_of_neg (by simp [solid])
  | cons a as => exact List.dropWhile_cons_of_neg (by simp [isBlank_of_trimLeft start])

/-- The start of a trimmed text is trimmed on the left. -/
theorem trimLeft_of_append_cons {as bs : List Char} (h : trimLeft (as ++ c :: bs) = as ++ c :: bs) :
    trimLeft as = as := by
  cases as with
  | nil => rfl
  | cons a as => exact List.dropWhile_cons_of_neg (by simp [isBlank_of_trimLeft h])

theorem mem_trim_of_mem (solid : isBlank c = false) (h : c ∈ cs) : c ∈ trim cs := by
  obtain ⟨as, bs, rfl⟩ := List.append_of_mem h
  have left : ∃ more, trimLeft (as ++ c :: bs) = more ++ c :: bs := by
    unfold trimLeft
    rw [List.dropWhile_append]
    split
    · exact ⟨[], List.dropWhile_cons_of_neg (by simp [solid])⟩
    · exact ⟨_, rfl⟩
  obtain ⟨more, kept⟩ := left
  rw [trim, kept, trimRight_append_cons more solid]
  exact List.mem_append_right _ List.mem_cons_self

/-- A text is what is left of it when its ends are dropped, between what was dropped. -/
theorem exists_dropped (p : Char → Bool) (cs : List Char) :
    ∃ before after, (∀ c ∈ before, p c = true) ∧ (∀ c ∈ after, p c = true) ∧
      cs = before ++ (dropRightWhile p (cs.dropWhile p) ++ after) := by
  refine ⟨cs.takeWhile p, (cs.dropWhile p).rtakeWhile p, ?_, ?_, ?_⟩
  · exact fun c mem => List.mem_takeWhile_imp mem
  · exact fun c mem => List.mem_rtakeWhile_imp mem
  · have right : dropRightWhile p (cs.dropWhile p) ++ (cs.dropWhile p).rtakeWhile p =
        cs.dropWhile p := List.rdropWhile_append_rtakeWhile
    rw [right]
    exact List.takeWhile_append_dropWhile.symm

/-- A text is what is left of it when it is trimmed, between blanks. -/
theorem exists_blanks_trim (cs : List Char) :
    ∃ before after, (∀ c ∈ before, isBlank c = true) ∧ (∀ c ∈ after, isBlank c = true) ∧
      cs = before ++ (trim cs ++ after) :=
  exists_dropped isBlank cs

/-- Where all that is kept is to stay, both ends are dropped up to it. -/
theorem dropRightWhile_between {p : Char → Bool} {before kept after : List Char}
    (hb : ∀ b ∈ before, p b = true) (ha : ∀ a ∈ after, p a = true)
    (stays : ∀ c ∈ kept, p c = false) (some_ : kept ≠ []) :
    dropRightWhile p ((before ++ (kept ++ after)).dropWhile p) = kept := by
  have starts : ∀ cs more : List Char, cs ≠ [] → (∀ c ∈ cs, p c = false) →
      (cs ++ more).dropWhile p = cs ++ more := by
    intro cs more some_ stays
    obtain ⟨c, cs, rfl⟩ := List.exists_cons_of_ne_nil some_
    exact List.dropWhile_cons_of_neg (by simp [stays c List.mem_cons_self])
  have ha' : ∀ a ∈ after.reverse, p a = true := by simpa using ha
  have ends := starts kept.reverse [] (by simpa using some_) (by simpa using stays)
  rw [List.append_nil] at ends
  rw [List.dropWhile_append_of_pos hb, starts kept after some_ stays, dropRightWhile,
    List.reverse_append, List.dropWhile_append_of_pos ha', ends, List.reverse_reverse]

/-- Blanks are trimmed off up to the outermost characters that are none. -/
theorem trim_between {before after : List Char} (hb : ∀ b ∈ before, isBlank b = true)
    (ha : ∀ a ∈ after, isBlank a = true) (first : isBlank c = false) {d : Char}
    (last : isBlank d = false) :
    trim (before ++ (c :: (cs ++ [d]) ++ after)) = c :: (cs ++ [d]) := by
  have left : trimLeft (before ++ (c :: (cs ++ [d]) ++ after)) = (c :: cs) ++ d :: after := by
    unfold trimLeft
    rw [List.dropWhile_append_of_pos hb, List.cons_append,
      List.dropWhile_cons_of_neg (by simp [first])]
    simp
  have right : trimRight after = [] := List.rdropWhile_eq_nil_iff.mpr ha
  rw [trim, left, trimRight_append_cons (c :: cs) last, right, List.cons_append]

@[simp] theorem trimmed_trimmed (s : String) : trimmed (trimmed s) = trimmed s := by
  simp [trimmed, trim_trim]

/-! ## Texts between blanks -/

/-- Blanks around a text are trimmed off with those of the text. -/
theorem trim_append {before after : List Char} (hb : ∀ b ∈ before, isBlank b = true)
    (ha : ∀ a ∈ after, isBlank a = true) (cs : List Char) :
    trim (before ++ (cs ++ after)) = trim cs := by
  have right : trimRight (trimLeft cs ++ after) = trimRight (trimLeft cs) := by
    unfold trimRight dropRightWhile
    rw [List.reverse_append, List.dropWhile_append_of_pos (by simpa using ha)]
  have left : trimLeft (before ++ (cs ++ after)) = trimLeft (cs ++ after) :=
    List.dropWhile_append_of_pos hb
  rw [trim, left, trimLeft, List.dropWhile_append]
  split
  next none_ =>
    -- nothing but blanks, so nothing is left on either side
    have blank : cs.dropWhile isBlank = [] := by simpa using none_
    rw [trim, trimLeft, blank, List.dropWhile_eq_nil_iff.mpr ha]
  next => exact right

/-- `s` is `core` with blanks around it. -/
def InBlanks (core s : String) : Prop :=
  ∃ before after, isAllBlank before = true ∧ isAllBlank after = true ∧ s = before ++ core ++ after

/-- Two texts that differ in the blanks around them at most. -/
def SpelledAlike (s t : String) : Prop := ∃ core, InBlanks core s ∧ InBlanks core t

theorem InBlanks.trimmed_eq {core s : String} (h : InBlanks core s) : trimmed s = trimmed core := by
  obtain ⟨before, after, hb, ha, rfl⟩ := h
  have text : (before ++ core ++ after).toList = before.toList ++ (core.toList ++ after.toList) := by
    simp
  rw [trimmed, text, trim_append (List.all_eq_true.mp hb) (List.all_eq_true.mp ha)]
  rfl

theorem inBlanks_trimmed (s : String) : InBlanks (trimmed s) s := by
  obtain ⟨before, after, hb, ha, split⟩ := exists_blanks_trim s.toList
  refine ⟨.ofList before, .ofList after, ?_, ?_, ?_⟩
  · simpa [isAllBlank] using hb
  · simpa [isAllBlank] using ha
  · apply String.toList_injective
    simpa [trimmed] using split

/-- Two texts differ in the blanks around them at most if trimming leaves the same of them. -/
theorem spelledAlike_iff {s t : String} : SpelledAlike s t ↔ trimmed s = trimmed t := by
  constructor
  · rintro ⟨core, hs, ht⟩
    rw [hs.trimmed_eq, ht.trimmed_eq]
  · intro same
    exact ⟨trimmed s, inBlanks_trimmed s, same ▸ inBlanks_trimmed t⟩

end RamlDocs.Text
