import RamlDocs.Proofs.Definition.NamedExample
import RamlDocs.Proofs.Definition.Reading
import RamlDocs.Proofs.Json.Object
import RamlDocs.View.Body

/-!
# One example, with and without a name

A body can declare its example by itself or as the only one of its named examples. Both ways the
same is shown, with two exceptions (`Response.shownFor_named_iff`). Null by itself shows nothing, but
under a name it is kept as the text `null`, and as its value is null the text is what is shown. And
an example with a name has to have a JSON form, which nobody asks of an example by itself.
-/

namespace RamlDocs

variable {x w : Value}

/-- What is shown of an example with a name: its value, or its text if it has none. -/
def NamedExample.shown (e : NamedExample) : Value :=
  if e.structured.isNull then Value.ofText? e.text else e.structured

/-- The example that is shown for the body that a declaration describes. -/
def Body.shownFor (scope : Scope) (mediaType : String) (declared : Value) : Except Fault Value :=
  (Body.ofDeclaration scope mediaType declared).map Body.example?

/-- The examples that are shown for a response with one body, which a declaration describes. -/
def Response.shownFor (scope : Scope) (mediaType code : String) (description : Option String)
    (declared : Value) : Except Fault (Option (List ResponseExample)) :=
  (Body.ofDeclaration scope mediaType declared).map fun b =>
    Response.allExamples [{ code, description, bodies := [b] }]

/-- A response shows what its body shows. -/
theorem Response.shownFor_eq_map (scope : Scope) (mediaType code : String)
    (description : Option String) (declared : Value) :
    Response.shownFor scope mediaType code description declared =
      (Body.shownFor scope mediaType declared).map fun v =>
        some [⟨code, description.getD "", v⟩] := by
  unfold Response.shownFor Body.shownFor
  cases Body.ofDeclaration scope mediaType declared <;> rfl

theorem structuredExample_of_text (s : String) :
    Facet.structuredExample (.text s) = (Facet.readJson? s).getD (.text s) := rfl

theorem structuredExample_of_not_text (other : w.text? = none) : Facet.structuredExample w = w := by
  cases w with
  | text s => cases other
  | _ => rfl

theorem isNull_structuredExample : (Facet.structuredExample w).isNull = w.isNull := by
  cases w with
  | text s =>
    rw [structuredExample_of_text]
    cases read : Facet.readJson? s with
    | none => rfl
    | some v => exact Json.isNull_of_readJson? read
  | _ => rfl

/-! ## By itself -/

theorem Body.shownFor_example (scope : Scope) (mediaType : String)
    (value : Facet.exampleValue x = .ok w) :
    Body.shownFor scope mediaType (.record [("example", x)]) =
      .ok (Facet.structuredExample w) := by
  have shown (b : Body) (none_ : b.namedExamples = []) : b.example? = b.exampleValue := by
    rw [Body.example?, none_]
    cases b.exampleValue <;> rfl
  have body : Body.ofDeclaration scope mediaType (.record [("example", x)]) =
      (Facet.exampleValue x).map fun w =>
        { mediaType
          exampleValue := Facet.structuredExample w
          raw := [(.text "name", .text mediaType), (.text "example", x)] } := by
    change (Facet.exampleValue x >>= _) = _
    cases Facet.exampleValue x <;> rfl
  rw [Body.shownFor, body, value]
  exact congrArg Except.ok (shown _ rfl)

/-! ## With a name -/

/-- The only example with a name is shown. -/
theorem Body.shownFor_examples (scope : Scope) (mediaType n : String) :
    Body.shownFor scope mediaType (.record [("examples", .record [(n, x)])]) =
      (NamedExample.ofDeclaration (.text n) x).map NamedExample.shown := by
  have body : Body.ofDeclaration scope mediaType (.record [("examples", .record [(n, x)])]) =
      (NamedExample.ofDeclaration (.text n) x).map fun e =>
        { mediaType
          namedExamples := [e]
          raw := [(.text "name", .text mediaType),
            (.text "examples", .record [(n, x)])] } := by
    change (NamedExample.all (.record [(n, x)]) >>= _) = _
    change (([(Key.text n, x)] : Mapping).mapM _ >>= _) = _
    rw [List.mapM_cons, List.mapM_nil]
    change ((NamedExample.ofDeclaration (.text n) x >>= _) >>= _) = _
    cases NamedExample.ofDeclaration (.text n) x <;> rfl
  rw [Body.shownFor, body]
  cases NamedExample.ofDeclaration (.text n) x <;> rfl

/-- A text is shown as what it spells, if that is an object or an array. -/
theorem NamedExample.shown_of_text (name s : String) :
    NamedExample.shown { name, text := some s, structured := (Facet.readJson? s).getD .null } =
      Facet.structuredExample (.text s) := by
  rw [structuredExample_of_text, NamedExample.shown]
  cases read : Facet.readJson? s with
  | none => rfl
  | some v =>
    simp only [Option.getD_some, Json.isNull_of_readJson? read]
    rfl

/-- Any other value is shown as it is, but null as a text. -/
theorem NamedExample.shown_of_not_text (name : String) (other : w.text? = none) :
    NamedExample.shown { name, text := some (Json.compact w), structured := w } =
      if w.isNull then .text "null" else Facet.structuredExample w := by
  rw [structuredExample_of_not_text other, NamedExample.shown]
  split
  next null =>
    cases w with
    | null => rfl
    | _ => cases null
  next => rfl

/-- An example with a name is shown as by itself, but null as a text. It has to have a JSON form. -/
theorem NamedExample.shown_ofDeclaration (n : String) (value : Facet.exampleValue x = .ok w) :
    (NamedExample.ofDeclaration (.text n) x).map NamedExample.shown =
      match Json.obstacle? true w with
      | some o => .error (.noJson o)
      | none => .ok (if w.isNull then .text "null" else Facet.structuredExample w) := by
  rw [NamedExample.ofDeclaration, value, ok_bind]
  split
  next s => exact congrArg Except.ok (NamedExample.shown_of_text n s)
  next other =>
    rw [NamedExample.jsonText]
    cases Json.obstacle? true w with
    | some o => rfl
    | none =>
      have noText : w.text? = none := by
        cases w with
        | text s => exact absurd rfl (other s)
        | _ => rfl
      exact congrArg Except.ok (NamedExample.shown_of_not_text n noText)

/-! ## Both -/

namespace Response

/-- For a plain example a response shows the same, whether the example has a name or not, unless it
is null or has no JSON form; by itself every example is shown. -/
theorem shownFor_named_iff {v : Value} (plain : v.plain = .ok x) (scope : Scope)
    (mediaType code : String) (description : Option String) (n : String) :
    ∃ w, Facet.exampleValue x = .ok w ∧
      shownFor scope mediaType code description (.record [("example", x)]) =
        .ok (some [⟨code, description.getD "", Facet.structuredExample w⟩]) ∧
      (shownFor scope mediaType code description (.record [("examples", .record [(n, x)])]) =
          shownFor scope mediaType code description (.record [("example", x)]) ↔
        w.isNull = false ∧ Json.obstacle? true w = none) := by
  obtain ⟨w, value, -⟩ := Facet.yields_exampleValue_within
    (fun _ => exists_text_of_textual) (v.within_plain plain)
  have single : shownFor scope mediaType code description (.record [("example", x)]) =
      .ok (some [⟨code, description.getD "", Facet.structuredExample w⟩]) := by
    rw [shownFor_eq_map, Body.shownFor_example scope mediaType value]
    rfl
  refine ⟨w, value, single, ?_⟩
  rw [single, shownFor_eq_map, Body.shownFor_examples, NamedExample.shown_ofDeclaration n value]
  cases Json.obstacle? true w with
  | some o => simp [Except.map]
  | none =>
    have kept := isNull_structuredExample (w := w)
    cases null : w.isNull with
    | false => simp [Except.map]
    | true =>
      refine iff_of_false (fun same => ?_) (by simp)
      have text : Value.text "null" = Facet.structuredExample w := by
        simpa [Except.map] using same
      rw [← text, null] at kept
      cases kept

/-- A definition that declares nothing. -/
def exampleScope : Scope where
  root := []
  libraries := []
  mediaType := "application/json"

/-- An array that is written as a text, with facets and an annotation. -/
def wrappedArray : Value := .record [
  ("value", .text " [1, null]"), ("(note)", .text "first"), ("strict", .bool false)]

theorem shownFor_named_wrappedArray :
    wrappedArray.plain = .ok wrappedArray ∧
      shownFor exampleScope "text/plain" "200" none
          (.record [("examples", .record [("n", wrappedArray)])]) =
        shownFor exampleScope "text/plain" "200" none (.record [("example", wrappedArray)]) := by
  have plain : wrappedArray.plain = .ok wrappedArray := by rfl
  have text : Facet.exampleValue wrappedArray = .ok (.text " [1, null]") := by
    refine (exampleValue_of_value rfl).trans ?_
    simp [Facet.hasExampleFacets, Facet.exampleFacets, ok_bind, Except.map]
  obtain ⟨w, value, -, alike⟩ :=
    shownFor_named_iff plain exampleScope "text/plain" "200" none "n"
  rw [text] at value
  cases value
  exact ⟨plain, alike.mpr ⟨rfl, rfl⟩⟩

/-- Under a name null is shown as a text, by itself it is shown as null. -/
theorem shownFor_null :
    Value.null.plain = .ok .null ∧
      shownFor exampleScope "application/json" "200" none
          (.record [("examples", .record [("n", .null)])]) =
        .ok (some [⟨"200", "", .text "null"⟩]) ∧
      shownFor exampleScope "application/json" "200" none (.record [("example", .null)]) =
        .ok (some [⟨"200", "", .null⟩]) := by
  refine ⟨rfl, ?_, ?_⟩
  · rw [shownFor_eq_map, Body.shownFor_examples, NamedExample.shown_ofDeclaration "n" rfl]
    rfl
  · rw [shownFor_eq_map, Body.shownFor_example _ _ rfl]
    rfl

end Response

end RamlDocs
