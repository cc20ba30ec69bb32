import RamlDocs.Template.Uri

/-!
# Variables of joined templates

A template is read from the left. Outside of braces all characters are passed over, and an opening
brace takes up the characters of names behind it (`variableNamesFrom_open`). As no variable holds a
slash, none spans the joint of two templates of which the second begins with one: the variables of
the joined template are those of the first and then those of the second (`variableNames_append`).
-/

namespace RamlDocs.Uri

/-! ## Reading from the left -/

/-- Outside of braces, all characters but an opening brace are passed over. -/
theorem variableNamesFrom_none_append {as : List Char} (plain : '{' ∉ as) (rest : List Char) :
    variableNamesFrom none (as ++ rest) = variableNamesFrom none rest := by
  induction as with
  | nil => rfl
  | cons c as ih =>
    rw [List.mem_cons, not_or] at plain
    rw [List.cons_append, variableNamesFrom, if_neg (by simpa using Ne.symm plain.1)]
    exact ih plain.2

/-- Inside of braces, characters of names are taken up. -/
theorem variableNamesFrom_some_append {name : List Char}
    (plain : ∀ c ∈ name, isNameChar c = true) (pending rest : List Char) :
    variableNamesFrom (some pending) (name ++ rest) =
      variableNamesFrom (some (name.reverse ++ pending)) rest := by
  induction name generalizing pending with
  | nil => rfl
  | cons c name ih =>
    obtain ⟨own, more⟩ := List.forall_mem_cons.mp plain
    simp only [isNameChar, Bool.and_eq_true, bne_iff_ne] at own
    rw [List.cons_append, variableNamesFrom]
    simp only [beq_iff_eq, own.1.1, own.1.2, own.2, if_false]
    rw [ih more, List.reverse_cons, List.append_assoc]
    rfl

/-- An opening brace takes up the characters of names behind it. -/
theorem variableNamesFrom_open {name : List Char} (plain : ∀ c ∈ name, isNameChar c = true)
    (rest : List Char) :
    variableNamesFrom none ('{' :: (name ++ rest)) =
      variableNamesFrom (some name.reverse) rest := by
  rw [variableNamesFrom, if_pos (by rfl), variableNamesFrom_some_append plain, List.append_nil]

/-! ## Joints -/

/-- At a slash, whatever a brace before it has opened is given up. -/
theorem variableNamesFrom_append_slash (open_ : Option (List Char)) (as bs : List Char) :
    variableNamesFrom open_ (as ++ '/' :: bs) =
      variableNamesFrom open_ as ++ variableNamesFrom none ('/' :: bs) := by
  fun_induction variableNamesFrom open_ as with
  | case1 open_ => cases open_ <;> rfl
  | case2 a as ih => exact ih
  | case3 pending a as brace ih => simpa [variableNamesFrom, brace] using ih
  | case4 pending a as brace slash ih => simpa [variableNamesFrom, brace, slash] using ih
  | case5 pending a as brace slash close none_ ih =>
    simpa [variableNamesFrom, brace, slash, close, none_] using ih
  | case6 pending a as brace slash close some_ ih =>
    simpa [variableNamesFrom, brace, slash, close, some_] using ih
  | case7 pending a as brace slash close ih =>
    simpa [variableNamesFrom, brace, slash, close] using ih

theorem variableNames_append {uri : String} (slash : uri.startsWith "/" = true) (base : String) :
    variableNames (base ++ uri) = variableNames base ++ variableNames uri := by
  obtain ⟨rest, text⟩ := String.startsWith_string_iff.mp slash
  unfold variableNames
  rw [String.toList_append, ← text]
  change List.map _ (variableNamesFrom none (base.toList ++ '/' :: rest)) = _
  rw [variableNamesFrom_append_slash, List.map_append]
  rfl

end RamlDocs.Uri
