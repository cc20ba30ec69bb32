import RamlDocs.Proofs.Outcome
import RamlDocs.Proofs.Text.Pieces
import RamlDocs.Template.Transform

/-!
# What a transformation leaves of a text

For ASCII texts a transformation changes the case of characters and drops what stands between words,
so it makes no opening bracket, and of two letters or digits it leaves one at least
(`solid_transform`). The last letter alone may be lost, where the singular drops an `s`.
-/

namespace RamlDocs.Template

open Text (upper lower lowerAfter capitalize decapitalize splitWhere forall_ascii)

/-- An ASCII character other than the opening bracket. -/
def IsPlainChar (c : Char) : Prop := c.toNat < 0x80 ∧ c ≠ '<'

/-- A text of such characters, one of which is a letter or a digit. -/
structure Solid (cs : List Char) : Prop where
  plain : ∀ c ∈ cs, IsPlainChar c
  letter : ∃ c ∈ cs, c.isAlphanum = true

variable {cs ds : List Char} {c d : Char}

/-! ## ASCII characters -/

/-- A character in one case or the other. -/
def Cased (c d : Char) : Prop := d = c ∨ d = c.toUpper ∨ d = c.toLower

theorem Cased.isPlainChar (cased : Cased c d) (plain : IsPlainChar c) : IsPlainChar d := by
  obtain ⟨ascii, other⟩ := plain
  have each : c ≠ '<' → (c.toUpper.toNat < 0x80 ∧ c.toUpper ≠ '<') ∧
      c.toLower.toNat < 0x80 ∧ c.toLower ≠ '<' :=
    forall_ascii (P := fun c => c ≠ '<' → (c.toUpper.toNat < 0x80 ∧ c.toUpper ≠ '<') ∧
      c.toLower.toNat < 0x80 ∧ c.toLower ≠ '<') (by decide +kernel) ascii
  rcases cased with rfl | rfl | rfl
  · exact ⟨ascii, other⟩
  · exact (each other).1
  · exact (each other).2

theorem Cased.isAlphanum (cased : Cased c d) (ascii : c.toNat < 0x80)
    (letter : c.isAlphanum = true) : d.isAlphanum = true := by
  have each : c.isAlphanum = true → c.toUpper.isAlphanum = true ∧ c.toLower.isAlphanum = true :=
    forall_ascii (P := fun c => c.isAlphanum = true →
      c.toUpper.isAlphanum = true ∧ c.toLower.isAlphanum = true) (by decide +kernel) ascii
  rcases cased with rfl | rfl | rfl
  · exact letter
  · exact (each letter).1
  · exact (each letter).2

/-- Letters and digits do not stand between words. -/
theorem isSeparator_of_isAlphanum (ascii : c.toNat < 0x80) (letter : c.isAlphanum = true) :
    isSeparator c = false :=
  forall_ascii (P := fun c => c.isAlphanum = true → isSeparator c = false) (by decide +kernel)
    ascii letter

/-! ## Case -/

theorem upperChar_of_ascii (ascii : c.toNat < 0x80) : Text.upperChar c = [c.toUpper] := by
  unfold Text.upperChar
  exact if_pos ascii

theorem lowerChar_of_ascii (ascii : c.toNat < 0x80) : Text.lowerChar c = [c.toLower] := by
  unfold Text.lowerChar
  exact if_pos ascii

theorem cased_self (cs : List Char) : List.Forall₂ Cased cs cs :=
  List.forall₂_same.mpr fun _ _ => .inl rfl

theorem cased_upper (ascii : ∀ c ∈ cs, c.toNat < 0x80) : List.Forall₂ Cased cs (upper cs) := by
  induction cs with
  | nil => exact .nil
  | cons c cs ih =>
    obtain ⟨own, rest⟩ := List.forall_mem_cons.mp ascii
    have first : upper (c :: cs) = c.toUpper :: upper cs := by
      rw [upper, List.flatMap_cons, upperChar_of_ascii own]
      rfl
    rw [first]
    exact .cons (.inr (.inl rfl)) (ih rest)

theorem cased_lowerAfter (before : List Char) (ascii : ∀ c ∈ cs, c.toNat < 0x80) :
    List.Forall₂ Cased cs (lowerAfter before cs) := by
  induction cs generalizing before with
  | nil => exact .nil
  | cons c cs ih =>
    obtain ⟨own, rest⟩ := List.forall_mem_cons.mp ascii
    have sigma : ¬ (c.toNat == 0x3a3) = true := by
      intro h
      have := eq_of_beq h
      omega
    rw [lowerAfter, if_neg sigma, lowerChar_of_ascii own]
    exact .cons (.inr (.inr rfl)) (ih (c :: before) rest)

theorem cased_capitalize (ascii : ∀ c ∈ cs, c.toNat < 0x80) :
    List.Forall₂ Cased cs (capitalize cs) := by
  cases cs with
  | nil => exact .nil
  | cons c cs =>
    rw [capitalize, upperChar_of_ascii (ascii c List.mem_cons_self)]
    exact .cons (.inr (.inl rfl)) (cased_self cs)

theorem cased_decapitalize (ascii : ∀ c ∈ cs, c.toNat < 0x80) :
    List.Forall₂ Cased cs (decapitalize cs) := by
  cases cs with
  | nil => exact .nil
  | cons c cs =>
    have first : List.Forall₂ Cased [c] (lower [c]) :=
      cased_lowerAfter [] fun d mem => by
        rw [List.mem_singleton.mp mem]
        exact ascii c List.mem_cons_self
    exact List.rel_append first (cased_self cs)

/-- The words of a text, each with its first character in upper case. -/
theorem cased_camelCase (ascii : ∀ c ∈ cs, c.toNat < 0x80) :
    List.Forall₂ Cased (cs.filter fun c => !isSeparator c) (camelCase cs) := by
  have words : ∀ pieces : List (List Char), (∀ c ∈ pieces.flatten, c.toNat < 0x80) →
      List.Forall₂ Cased pieces.flatten (pieces.flatMap capitalize) := by
    intro pieces ascii
    induction pieces with
    | nil => exact .nil
    | cons piece pieces ih =>
      rw [List.flatten_cons, List.forall_mem_append] at ascii
      rw [List.flatten_cons, List.flatMap_cons]
      exact List.rel_append (cased_capitalize ascii.1) (ih ascii.2)
  have text := Text.flatten_splitWhere isSeparator cs
  have kept := words (splitWhere isSeparator cs) fun c mem => by
    rw [text] at mem
    exact ascii c (List.mem_of_mem_filter mem)
  rwa [text] at kept

/-! ## Solid texts -/

theorem Solid.cased (h : Solid cs) (cased : List.Forall₂ Cased cs ds) : Solid ds where
  plain := by
    intro d mem
    obtain ⟨c, inside, same⟩ := exists_of_mem_forall₂ cased mem
    exact same.isPlainChar (h.plain c inside)
  letter := by
    obtain ⟨c, inside, letter⟩ := h.letter
    have flipped : List.Forall₂ (flip Cased) ds cs := List.Forall₂.flip cased
    obtain ⟨d, mem, same⟩ := exists_of_mem_forall₂ flipped inside
    exact ⟨d, mem, Cased.isAlphanum same (h.plain c inside).1 letter⟩

theorem Solid.ascii (h : Solid cs) : ∀ c ∈ cs, c.toNat < 0x80 := fun c mem => (h.plain c mem).1

theorem Solid.camelCase (h : Solid cs) : Solid (camelCase cs) := by
  obtain ⟨c, mem, letter⟩ := h.letter
  have joined := isSeparator_of_isAlphanum (h.ascii c mem) letter
  have words : Solid (cs.filter fun c => !isSeparator c) :=
    ⟨fun d inside => h.plain d (List.mem_of_mem_filter inside),
      c, List.mem_filter.mpr ⟨mem, by simp [joined]⟩, letter⟩
  exact words.cased (cased_camelCase h.ascii)

/-- The singular takes one letter at most. -/
theorem solid_singular (plain : ∀ c ∈ cs, IsPlainChar c)
    (letters : 2 ≤ cs.countP Char.isAlphanum) : Solid (singular cs) := by
  unfold singular
  split
  next ends =>
    obtain ⟨front, text⟩ := List.getLast?_eq_some_iff.mp (beq_iff_eq.mp ends)
    have remain : 0 < front.countP Char.isAlphanum := by
      rw [text, List.countP_append, List.countP_singleton] at letters
      split at letters <;> omega
    rw [text, List.dropLast_concat]
    refine ⟨fun c mem => plain c ?_, List.countP_pos_iff.mp remain⟩
    rw [text]
    exact List.mem_append_left _ mem
  next => exact ⟨plain, List.countP_pos_iff.mp (by omega)⟩

theorem Solid.plural (h : Solid cs) : Solid (plural cs) := by
  unfold Template.plural
  split
  · exact h
  · obtain ⟨c, mem, letter⟩ := h.letter
    refine ⟨?_, c, List.mem_append_left _ mem, letter⟩
    rw [List.forall_mem_append]
    exact ⟨h.plain, List.forall_mem_singleton.mpr ⟨by decide, by decide⟩⟩

/-- A transformation leaves something solid of a text with two letters or digits. -/
theorem solid_transform (plain : ∀ c ∈ cs, IsPlainChar c)
    (letters : 2 ≤ cs.countP Char.isAlphanum) (name : String) : Solid (transform name cs) := by
  have solid : Solid cs := ⟨plain, List.countP_pos_iff.mp (by omega)⟩
  unfold transform
  split
  · exact solid_singular plain letters
  · exact solid.plural
  · exact solid.cased (cased_upper solid.ascii)
  · exact solid.cased (cased_lowerAfter [] solid.ascii)
  · exact solid.camelCase
  · exact solid.camelCase.cased (cased_decapitalize solid.camelCase.ascii)
  · exact solid

end RamlDocs.Template
