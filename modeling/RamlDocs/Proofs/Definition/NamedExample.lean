import RamlDocs.Definition.Body
import RamlDocs.Proofs.Json.ReadBack
import RamlDocs.Proofs.Value.Ordinary

/-!
# Named examples

An example with a name is kept as a text and as a value. For lists and mappings of what JSON holds
the two say the same: the text is JSON, and it reads back as the value (`NamedExample.agrees_of_all`).
-/

namespace RamlDocs

variable {w : Value}

/-- A list or a mapping of null, booleans, integers that are short enough to be written, texts,
lists, and mappings with texts for keys. -/
def Value.IsStructured (w : Value) : Prop := w.isLeaf = false ∧ w.within Json.exact = true

theorem obstacle?_of_exact (h : w.within Json.exact = true) : Json.obstacle? true w = none := by
  refine obstacle?_of_vocabulary ?_ ?_ h
  · intro k key
    obtain ⟨s, rfl⟩ := exists_text_of_textual key
    rfl
  · intro v leaf scalar
    cases v with
    | list vs => cases leaf
    | map m => cases leaf
    | int n =>
      have short : Numeral.isShort n = true := by simpa only [Json.exact] using scalar
      rw [Json.obstacle?, if_pos short]
    | null => rfl
    | bool b => rfl
    | text s => rfl
    | _ => cases scalar

/-- An example with a value may be written with facets. -/
theorem exampleValue_of_value {m : Mapping} (h : Mapping.get? m "value" = some w) :
    Facet.exampleValue (.map m) =
      (Facet.hasExampleFacets m).map fun facets => if facets then w else .map m := by
  simp only [Facet.exampleValue, h]

/-- What is written of a list or a mapping is taken for JSON. -/
theorem looksLikeJson_compact (h : w.isLeaf = false) :
    Facet.looksLikeJson (Json.compact w) = true := by
  cases w with
  | list vs =>
    rw [Facet.looksLikeJson, Json.compact, String.append_assoc, String.toList_append]
    rfl
  | map m =>
    rw [Facet.looksLikeJson, Json.compact, String.append_assoc, String.toList_append]
    rfl
  | _ => cases h

theorem readJson?_compact (h : w.IsStructured) :
    Facet.readJson? (Json.compact w) = some w := by
  rw [Facet.readJson?, if_pos (looksLikeJson_compact h.1), Json.read_compact h.2]
  rfl

namespace NamedExample

/-- An example without a text of its own is kept with its JSON text. -/
theorem ofDeclaration_of_exampleValue {declared : Value} (key : Key)
    (value : Facet.exampleValue declared = .ok w) (h : w.IsStructured) :
    ofDeclaration key declared =
      key.asText.map fun name => { name, text := some (Json.compact w), structured := w } := by
  have written : jsonText w = .ok (Json.compact w) := by
    rw [jsonText, obstacle?_of_exact h.2]
  rw [ofDeclaration, value, ok_bind]
  split
  next s => cases h.1
  next =>
    rw [written, ok_bind]
    cases key.asText <;> rfl

/-- An example of a declared entry: its name and value are those of the entry, and its text reads
back as the value. -/
structure Agrees (e : Key × Value) (x : NamedExample) : Prop where
  name : x.name = e.1.display
  value : Facet.exampleValue e.2 = .ok x.structured
  text : ∃ s, x.text = some s ∧ Facet.readJson? s = some x.structured

theorem agrees_of_ofDeclaration {e : Key × Value} {x : NamedExample}
    (h : ∃ w, Facet.exampleValue e.2 = .ok w ∧ w.IsStructured)
    (came : ofDeclaration e.1 e.2 = .ok x) : Agrees e x := by
  obtain ⟨w, value, structured⟩ := h
  rw [ofDeclaration_of_exampleValue e.1 value structured] at came
  obtain ⟨name, named, rfl⟩ := map_eq_ok.mp came
  exact ⟨Key.eq_display_of_asText named, value, _, rfl, readJson?_compact structured⟩

/-- Where all examples of a mapping are structured, they are kept if and only if their names have
texts. They are kept in order, and the text of each reads back as its value. -/
theorem agrees_of_all {v : Value}
    (h : ∀ e ∈ v.entries, ∃ w, Facet.exampleValue e.2 = .ok w ∧ w.IsStructured) :
    (Returns (all v) ↔ ∀ e ∈ v.entries, e.1.isWritable = true) ∧
      ∀ examples, all v = .ok examples → List.Forall₂ Agrees v.entries examples := by
  constructor
  · rw [all, returns_mapM_iff]
    refine forall₂_congr fun e mem => ?_
    obtain ⟨w, value, structured⟩ := h e mem
    rw [ofDeclaration_of_exampleValue e.1 value structured, returns_map_iff, Key.returns_asText_iff]
  · intro examples came
    have each := (List.forall₂_and_left _ _).mpr ⟨h, mapM_eq_ok_iff.mp came⟩
    exact each.imp fun e x both => agrees_of_ofDeclaration both.1 both.2

/-- A mapping with texts that need escapes of every kind and numbers of both signs, and a list of
empty containers that is written with facets. -/
def scores : Value := .record [
  ("full", .record [
    ("𝄞 \"é\"", .text "\\ \x01\n"), ("low", .list [.int (-12), .int 1180591620717411303424]),
    ("", .list [.null, .bool false])]),
  ("empty", .record [("value", .list [.list [], .map []]), ("(source)", .text "A"),
    ("description", .text "Nothing")])]

theorem agrees_scores :
    (∀ e ∈ scores.entries, ∃ w, Facet.exampleValue e.2 = .ok w ∧ w.IsStructured) ∧
      ∃ examples, all scores = .ok examples ∧ List.Forall₂ Agrees scores.entries examples := by
  have facets : Facet.hasExampleFacets [(.text "value", .list [.list [], .map []]),
      (.text "(source)", .text "A"), (.text "description", .text "Nothing")] = .ok true := by
    simp [Facet.hasExampleFacets, Facet.exampleFacets, ok_bind]
  have structured : ∀ e ∈ scores.entries, ∃ w,
      Facet.exampleValue e.2 = .ok w ∧ w.IsStructured := by
    refine List.forall_mem_cons.mpr ⟨⟨_, rfl, rfl, by decide +kernel⟩,
      List.forall_mem_singleton.mpr ⟨.list [.list [], .map []], ?_, rfl, rfl⟩⟩
    exact (exampleValue_of_value rfl).trans (congrArg (Except.map _) facets)
  obtain ⟨returns, agree⟩ := agrees_of_all structured
  obtain ⟨examples, came, -⟩ := returns.mpr (by decide +kernel)
  exact ⟨structured, examples, came, agree examples came⟩

end NamedExample

end RamlDocs
