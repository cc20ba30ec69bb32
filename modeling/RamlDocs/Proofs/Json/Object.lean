import RamlDocs.Definition.Facet
import RamlDocs.Proofs.Outcome

/-!
# How JSON begins

A text that is read as an object begins with an opening brace, and one that is read as null with its
first letter, blanks of JSON aside, all of which count as blanks everywhere else too. So a
declaration is taken for a schema if it spells an object (`looksLikeJson_of_read`), and no text that
may spell an object or an array spells null (`isNull_of_readJson?`).
-/

namespace RamlDocs.Json

variable {limit : Option Nat} {fuel : Nat} {cs rest : List Char} {v : Value}

theorem readNumber_kind (h : readNumber limit cs = .ok (v, rest)) :
    v.isMap = false ∧ v.isNull = false := by
  unfold readNumber at h
  -- The sign is left open: it decides which number is read, and none is a mapping or null.
  split at h
  simp only at h
  split at h
  · cases h
  · split at h
    · cases h
      exact ⟨rfl, rfl⟩
    · split at h
      · cases h
        exact ⟨rfl, rfl⟩
      · split at h
        · cases h
        · cases h
          exact ⟨rfl, rfl⟩

theorem readItems_kind {acc : List Value} (h : readItems limit fuel acc cs = .ok (v, rest)) :
    ∃ vs, v = .list vs := by
  induction fuel generalizing acc cs with
  | zero =>
    rw [readItems] at h
    cases h
  | succ fuel ih =>
    rw [readItems] at h
    obtain ⟨⟨w, more⟩, _, h⟩ := bind_eq_ok.mp h
    simp only at h
    split at h
    · cases h
      exact ⟨_, rfl⟩
    · exact ih h
    · cases h

theorem readMembers_kind {acc : Mapping} (h : readMembers limit fuel acc cs = .ok (v, rest)) :
    ∃ m, v = .map m := by
  induction fuel generalizing acc cs with
  | zero =>
    rw [readMembers] at h
    cases h
  | succ fuel ih =>
    rw [readMembers.eq_def] at h
    simp only at h
    split at h
    · obtain ⟨⟨name, more⟩, _, h⟩ := bind_eq_ok.mp h
      simp only at h
      split at h
      · obtain ⟨⟨w, more⟩, _, h⟩ := bind_eq_ok.mp h
        simp only at h
        split at h
        · cases h
          exact ⟨_, rfl⟩
        · exact ih h
        · cases h
      · cases h
    · cases h

/-- The first character tells an object, and it tells null. -/
theorem first_of_readValue (h : readValue limit fuel cs = .ok (v, rest)) :
    (v.isMap = true → ∃ more, cs = '{' :: more) ∧
      (v.isNull = true → ∃ more, cs = 'n' :: more) := by
  cases fuel with
  | zero =>
    rw [readValue] at h
    cases h
  | succ fuel =>
    rw [readValue.eq_def] at h
    simp only at h
    split at h
    · obtain ⟨r, _, same⟩ := map_eq_ok.mp h
      cases same
      exact ⟨nofun, nofun⟩
    · refine ⟨fun _ => ⟨_, rfl⟩, ?_⟩
      split at h
      · cases h
        exact nofun
      · obtain ⟨m, rfl⟩ := readMembers_kind h
        exact nofun
    · split at h
      · cases h
        exact ⟨nofun, nofun⟩
      · obtain ⟨vs, rfl⟩ := readItems_kind h
        exact ⟨nofun, nofun⟩
    · exact ⟨by cases h; exact nofun, fun _ => ⟨_, rfl⟩⟩
    -- the other words stand for booleans and numbers
    iterate 5
      · cases h
        exact ⟨nofun, nofun⟩
    · obtain ⟨map, null⟩ := readNumber_kind h
      simp [map, null]

/-- Blanks of JSON are blanks. -/
theorem trimLeft_eq_of_skipBlanks {c : Char} {more : List Char} (solid : Text.isBlank c = false)
    (h : skipBlanks cs = c :: more) : Text.trimLeft cs = c :: more := by
  induction cs with
  | nil => cases h
  | cons d cs ih =>
    unfold skipBlanks at h ih
    unfold Text.trimLeft at ih ⊢
    cases blank : isBlank d with
    | true =>
      rw [List.dropWhile_cons_of_pos blank] at h
      have wide : Text.isBlank d = true := by
        simp only [isBlank, Bool.or_eq_true, beq_iff_eq] at blank
        rcases blank with ((rfl | rfl) | rfl) | rfl <;> rfl
      rw [List.dropWhile_cons_of_pos wide]
      exact ih h
    | false =>
      rw [List.dropWhile_cons_of_neg (by simp [blank])] at h
      obtain ⟨rfl, rfl⟩ := List.cons.inj h
      exact List.dropWhile_cons_of_neg (by simp [solid])

theorem first_of_read {s : String} (h : read s = .ok v) :
    (v.isMap = true → ∃ more, Text.trimLeft s.toList = '{' :: more) ∧
      (v.isNull = true → ∃ more, Text.trimLeft s.toList = 'n' :: more) := by
  unfold read readWith at h
  split at h
  · cases h
  · obtain ⟨⟨w, rest⟩, came, h⟩ := bind_eq_ok.mp h
    simp only at h
    split at h
    · cases h
      obtain ⟨map, null⟩ := first_of_readValue came
      constructor
      · intro object
        obtain ⟨more, begins⟩ := map object
        exact ⟨more, trimLeft_eq_of_skipBlanks (by decide) begins⟩
      · intro nothing
        obtain ⟨more, begins⟩ := null nothing
        exact ⟨more, trimLeft_eq_of_skipBlanks (by decide) begins⟩
    · cases h

theorem looksLikeJson_of_read {s : String} {m : Mapping} (h : read s = .ok (.map m)) :
    Facet.looksLikeJson s = true := by
  obtain ⟨more, begins⟩ := (first_of_read h).1 rfl
  unfold Facet.looksLikeJson
  rw [begins]
  rfl

theorem isNull_of_readJson? {s : String} (h : Facet.readJson? s = some v) : v.isNull = false := by
  unfold Facet.readJson? at h
  split at h
  next braced =>
    refine Bool.eq_false_iff.mpr fun null => ?_
    obtain ⟨w, came, rfl⟩ : ∃ w, read s = .ok w ∧ id w = v :=
      exists_ok_of_toOption (by rwa [Option.map_id])
    obtain ⟨more, begins⟩ := (first_of_read came).2 null
    unfold Facet.looksLikeJson at braced
    rw [begins] at braced
    cases braced
  next => cases h

end RamlDocs.Json
