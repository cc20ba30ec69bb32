import RamlDocs.Proofs.Text.Pieces
import RamlDocs.Template.Uri

/-!
# Names of paths

The name of a path is its last segment that is neither empty nor a variable. A path that goes on
behind a slash has the segments of both parts, so its name is that of the part behind the slash, or
that of the path so far if there is none (`pathName_append`). What one segment does to the name
depends on its kind alone (`pathName_of_segment`, `isVariable_iff`).

Nothing is asked of the path so far. It may have empty segments and braces without a partner: a
variable has no slash in it, so none reaches into the segment that follows.
-/

namespace RamlDocs.Uri

variable {path s : String}

/-! ## Paths that go on -/

/-- The segments that can name a path: those that are neither empty nor a variable. -/
def namingSegments (path : String) : List (List Char) :=
  (Text.splitWhere (· == '/') path.toList).filter fun s => !s.isEmpty && !isVariable s

theorem pathName_eq (path : String) :
    pathName path = String.ofList ((namingSegments path).getLast?.getD []) := rfl

theorem namingSegments_append (path rest : String) :
    namingSegments (path ++ "/" ++ rest) = namingSegments path ++ namingSegments rest := by
  have text : (path ++ "/" ++ rest).toList = path.toList ++ '/' :: rest.toList := by simp
  unfold namingSegments
  rw [text, Text.splitWhere_append (p := (· == '/')) (beq_self_eq_true '/'), List.filter_append]

theorem pathName_eq_empty_iff : pathName path = "" ↔ namingSegments path = [] := by
  rw [pathName_eq]
  constructor
  · intro nameless
    cases last : (namingSegments path).getLast? with
    | none => exact List.getLast?_eq_none_iff.mp last
    | some s =>
      -- no segment that can name a path is empty
      have naming := (List.mem_filter.mp (List.mem_of_getLast? last)).2
      rw [last, Option.getD_some] at nameless
      obtain rfl : s = [] := by simpa using nameless
      cases naming
  · intro none_
    rw [none_]
    rfl

/-- A path that goes on behind a slash is named by what follows, if that has a name. -/
theorem pathName_append (path rest : String) :
    pathName (path ++ "/" ++ rest) =
      if pathName rest = "" then pathName path else pathName rest := by
  rw [pathName_eq (path ++ "/" ++ rest), namingSegments_append, List.getLast?_append]
  split
  next nameless =>
    rw [pathName_eq_empty_iff.mp nameless]
    rfl
  next named =>
    cases last : (namingSegments rest).getLast? with
    | none => exact absurd (pathName_eq_empty_iff.mpr (List.getLast?_eq_none_iff.mp last)) named
    | some s => rw [pathName_eq rest, last, Option.some_or]

/-! ## One segment -/

/-- A text that can be the name of a variable: not empty, without braces and slashes. -/
structure IsName (x : String) : Prop where
  nonempty : x ≠ ""
  noOpen : '{' ∉ x.toList
  noClose : '}' ∉ x.toList
  noSlash : '/' ∉ x.toList

/-- The segment that is one variable and nothing else. -/
def variableSegment (x : String) : String := "\x7b" ++ x ++ "\x7d"

theorem toList_variableSegment (x : String) :
    (variableSegment x).toList = '{' :: (x.toList ++ ['}']) := by
  simp [variableSegment]

theorem isName_iff {x : String} :
    IsName x ↔ x.toList.isEmpty = false ∧ x.toList.all isNameChar = true := by
  rw [List.isEmpty_eq_false_iff, List.all_eq_true]
  constructor
  · rintro ⟨nonempty, noOpen, noClose, noSlash⟩
    refine ⟨by simpa using nonempty, fun c mem => ?_⟩
    simp [isNameChar, ne_of_mem_of_not_mem mem noOpen, ne_of_mem_of_not_mem mem noClose,
      ne_of_mem_of_not_mem mem noSlash]
  · rintro ⟨nonempty, chars⟩
    exact ⟨by simpa using nonempty, fun mem => absurd (chars _ mem) (by decide),
      fun mem => absurd (chars _ mem) (by decide), fun mem => absurd (chars _ mem) (by decide)⟩

theorem isVariable_iff :
    isVariable s.toList = true ↔ ∃ x, IsName x ∧ s = variableSegment x := by
  constructor
  · intro h
    unfold isVariable at h
    split at h
    next cs text =>
      simp only [Bool.and_eq_true, Bool.not_eq_true', beq_iff_eq] at h
      obtain ⟨⟨nonempty, chars⟩, close⟩ := h
      refine ⟨String.ofList cs.dropLast, isName_iff.mpr ?_, ?_⟩
      · rw [String.toList_ofList]
        exact ⟨nonempty, chars⟩
      · apply String.toList_injective
        rw [toList_variableSegment, String.toList_ofList, text,
          List.dropLast_append_getLast? '}' close]
    next => cases h
  · rintro ⟨x, name, rfl⟩
    obtain ⟨nonempty, chars⟩ := isName_iff.mp name
    rw [toList_variableSegment, isVariable]
    simp [nonempty, chars]

theorem pathName_of_segment (single : '/' ∉ s.toList) :
    pathName s = if isVariable s.toList then "" else s := by
  have apart : ∀ c ∈ s.toList, (c == '/') = false :=
    fun c mem => by simpa using ne_of_mem_of_not_mem mem single
  rw [pathName_eq, namingSegments, Text.splitWhere_of_free apart, List.filter_singleton]
  cases empty : s.toList.isEmpty with
  | true =>
    obtain rfl : s = "" := by simpa using empty
    rfl
  | false => cases isVariable s.toList <;> simp

theorem not_mem_variableSegment {x : String} (h : IsName x) :
    '/' ∉ (variableSegment x).toList := by
  rw [toList_variableSegment]
  simp [h.noSlash]

/-- A variable at the end of a path leaves the name as it is. -/
theorem pathName_append_variable {x : String} (h : IsName x) (path : String) :
    pathName (path ++ "/" ++ variableSegment x) = pathName path := by
  rw [pathName_append, pathName_of_segment (not_mem_variableSegment h),
    if_pos (isVariable_iff.mpr ⟨x, h, rfl⟩), if_pos rfl]

/-- So does a slash. -/
theorem pathName_append_slash (path : String) : pathName (path ++ "/") = pathName path := by
  have empty := pathName_append path ""
  rwa [String.append_empty, if_pos (by rfl)] at empty

/-- Any other segment at the end of a path is its name. -/
theorem pathName_append_segment (nonempty : s ≠ "") (single : '/' ∉ s.toList)
    (other : ∀ x, IsName x → s ≠ variableSegment x) (path : String) :
    pathName (path ++ "/" ++ s) = s := by
  have plain : ¬ isVariable s.toList = true := by
    rw [isVariable_iff]
    rintro ⟨x, name, same⟩
    exact other x name same
  rw [pathName_append, pathName_of_segment single, if_neg plain, if_neg nonempty]

end RamlDocs.Uri
