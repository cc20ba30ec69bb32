import RamlDocs.Proofs.Alike
import RamlDocs.Yaml.Meaning

/-!
# What a value takes from other files

The scalars of a node that stand for the contents of files are its file names (`Node.fileNames`).
Nothing else of the files matters to its value: where the contents under these names end alike, so
do the values (`alike_read`), for any relation of problems that each problem has with itself. The
stages in which the contents of a collection are read do not depend on which problems they meet.
-/

namespace RamlDocs.Yaml

/-! ## File names -/

namespace Node

mutual

/-- The characters of a node: its own, or for a mapping those under its first equals sign. -/
def spelling? : Node → Option String
  | .scalar _ text => some text
  | .list _ _ => none
  | .map _ entries => spellingIn? entries

/-- The characters of the first value under an equals sign. -/
def spellingIn? : List (Node × Node) → Option String
  | [] => none
  | (k, v) :: es => if tagOf k == .value then v.spelling? else spellingIn? es

end

/-- The file that a node of a tag and with some characters stands for. -/
def namedFile (tag : Tag) (text : Option String) : List String :=
  if tag = .fileContent then text.toList else []

mutual

/-- The names of the files whose contents stand somewhere in a node. -/
def fileNames : Node → List String
  | .scalar tag text => namedFile tag (some text)
  | .list _ items => itemFileNames items
  | .map tag entries => namedFile tag (spellingIn? entries) ++ entryFileNames entries

/-- The names of the files whose contents stand in some item. -/
def itemFileNames : List Node → List String
  | [] => []
  | n :: ns => n.fileNames ++ itemFileNames ns

/-- The names of the files whose contents stand in some key or value. -/
def entryFileNames : List (Node × Node) → List String
  | [] => []
  | (k, v) :: es => k.fileNames ++ v.fileNames ++ entryFileNames es

end

end Node

/-- The characters of a mapping: those under its first equals sign. -/
def entriesText (es : List (Tag × Meaning × Meaning)) : Option String :=
  (es.find? fun e => e.1 == .value).bind fun e => e.2.2.text

mutual

theorem text_meaning (file : String → Except Problem Value) :
    ∀ n : Node, (meaning file n).text = n.spelling?
  | .scalar _ _ => rfl
  | .list _ _ => rfl
  | .map _ entries => text_entryMeanings file entries

theorem text_entryMeanings (file : String → Except Problem Value) :
    ∀ es : List (Node × Node),
      entriesText (entryMeanings file es) = Node.spellingIn? es
  | [] => rfl
  | (k, v) :: es => by
    rw [entriesText, entryMeanings, List.find?_cons, Node.spellingIn?]
    cases tagOf k == .value with
    | true => exact text_meaning file v
    | false => exact text_entryMeanings file es

end

/-! ## Meanings that end alike -/

variable {R : Problem → Problem → Prop}

/-- Two pairs of pieces of work end alike. -/
def PairAlike {α β : Type} (R : Problem → Problem → Prop)
    (d e : Staged Problem α × Staged Problem β) : Prop :=
  Staged.Alike R d.1 e.1 ∧ Staged.Alike R d.2 e.2

/-- Two nodes have the same characters, and end alike in whatever place they stand. -/
structure Meaning.Alike (R : Problem → Problem → Prop) (m n : Meaning) : Prop where
  text : m.text = n.text
  whole : Staged.Alike R m.whole n.whole
  key : Staged.Alike R m.key n.key
  entries : Option.Rel (List.Forall₂ (PairAlike R)) m.entries n.entries
  added : Option.Rel (List.Forall₂ (PairAlike R)) m.added n.added
  single : Option.Rel (PairAlike R) m.single n.single

/-- Two entries have keys of the same tag, and keys and values that end alike. -/
def EntryAlike (R : Problem → Problem → Prop) (d e : Tag × Meaning × Meaning) : Prop :=
  d.1 = e.1 ∧ Meaning.Alike R d.2.1 e.2.1 ∧ Meaning.Alike R d.2.2 e.2.2

/-- An item of a list of pairs, which is the one entry of a mapping. -/
def pairOf (single : Option (Staged Problem Value × Staged Problem Value)) :
    Staged Problem (Value × Value) :=
  match single with
  | some (k, v) => Staged.both k v
  | none => malformed

theorem rel_filterTag (p : Tag → Bool) {es fs : List (Tag × Meaning × Meaning)}
    (h : List.Forall₂ (EntryAlike R) es fs) :
    List.Forall₂ (EntryAlike R) (es.filter fun e => p e.1) (fs.filter fun e => p e.1) := by
  refine List.rel_filter ?_ h
  intro d e entry
  simp only [entry.1]

theorem entriesText_congr {es fs : List (Tag × Meaning × Meaning)}
    (h : List.Forall₂ (EntryAlike R) es fs) : entriesText es = entriesText fs := by
  unfold entriesText
  induction h with
  | nil => rfl
  | @cons d e es fs own _ ih =>
    rw [List.find?_cons, List.find?_cons, own.1]
    cases e.1 == .value with
    | true => exact own.2.2.text
    | false => exact ih

theorem alike_ofEntries (collect : Mapping → Value) {es fs : Entries}
    (h : List.Forall₂ (PairAlike R) es fs) :
    Staged.Alike R (ofEntries collect es) (ofEntries collect fs) := by
  refine Staged.alike_filled _ ?_
  rw [List.forall₂_map_left_iff, List.forall₂_map_right_iff]
  exact h.imp fun _ _ pair => Staged.alike_both pair.1 pair.2

section

variable (same : ∀ p, R p p) {file other : String → Except Problem Value} {tag : Tag}
include same

theorem alike_malformed {α : Type} :
    Staged.Alike R (malformed : Staged Problem α) malformed :=
  Staged.alike_refl same malformed

theorem alike_ofSpelling {text : Option String}
    (contents : ∀ name ∈ Node.namedFile tag text, Alike R (file name) (other name)) :
    Staged.Alike R (ofSpelling file tag text) (ofSpelling other tag text) := by
  unfold ofSpelling
  cases text with
  | none => exact alike_malformed same
  | some text =>
    by_cases content : tag = .fileContent
    · simp only [if_pos content]
      exact Staged.alike_now (contents text (by simp [Node.namedFile, content]))
    · simp only [if_neg content]
      exact Staged.alike_refl same _

theorem alike_keyOf {x y : Staged Problem Value} (h : Staged.Alike R x y) :
    Staged.Alike R (keyOf tag x) (keyOf tag y) := by
  unfold keyOf
  split
  · exact alike_malformed same
  · exact h.bind fun v _ => Staged.alike_refl same _

theorem alike_scalarMeaning {text : String}
    (contents : ∀ name ∈ Node.namedFile tag (some text), Alike R (file name) (other name)) :
    Meaning.Alike R (scalarMeaning file tag text) (scalarMeaning other tag text) := by
  have whole : Staged.Alike R (scalarMeaning file tag text).whole
      (scalarMeaning other tag text).whole := by
    unfold scalarMeaning
    split
    · exact Staged.alike_refl same misfit
    · exact alike_ofSpelling same contents
  exact ⟨rfl, whole, alike_keyOf same whole, .none, .none, .none⟩

theorem alike_pairOf {x y : Option (Staged Problem Value × Staged Problem Value)}
    (h : Option.Rel (PairAlike R) x y) : Staged.Alike R (pairOf x) (pairOf y) := by
  cases h with
  | none => exact alike_malformed same
  | some pair => exact Staged.alike_both pair.1 pair.2

theorem alike_wholeList {ms ns : List Meaning} (h : List.Forall₂ (Meaning.Alike R) ms ns) :
    Staged.Alike R (listMeaning file tag ms).whole (listMeaning other tag ns).whole := by
  cases tag with
  | list =>
    refine Staged.alike_filled _ ?_
    rw [List.forall₂_map_left_iff, List.forall₂_map_right_iff]
    exact h.imp fun _ _ item => item.whole
  | pairs | orderedMap =>
    refine Staged.alike_filled _ ?_
    rw [List.forall₂_map_left_iff, List.forall₂_map_right_iff]
    exact h.imp fun _ _ item => alike_pairOf same item.single
  | map | set => exact Staged.alike_refl same misfit
  | _ => exact alike_malformed same

theorem alike_listMeaning {ms ns : List Meaning} (h : List.Forall₂ (Meaning.Alike R) ms ns) :
    Meaning.Alike R (listMeaning file tag ms) (listMeaning other tag ns) := by
  have whole : Staged.Alike R (listMeaning file tag ms).whole (listMeaning other tag ns).whole :=
    alike_wholeList same h
  refine ⟨rfl, whole, alike_keyOf same whole, .none, ?_, .none⟩
  exact rel_map (rel_mapM (fun _ _ item => item.entries) h) fun _ _ all =>
    List.rel_flatten (List.rel_reverse all)

/-! ## Mappings -/

theorem alike_entryKey {m n : Meaning} (h : Meaning.Alike R m n) :
    Staged.Alike R
      (if tag = .value then
        match m.text with
        | some s => .ok (.text s)
        | none => malformed
      else m.key)
      (if tag = .value then
        match n.text with
        | some s => .ok (.text s)
        | none => malformed
      else n.key) := by
  rw [h.text]
  split
  · exact Staged.alike_refl same _
  · exact h.key

theorem alike_mappingEntries {es fs : List (Tag × Meaning × Meaning)}
    (h : List.Forall₂ (EntryAlike R) es fs) :
    Option.Rel (List.Forall₂ (PairAlike R)) (mappingEntries es) (mappingEntries fs) := by
  have merged := rel_filterTag (· == .merge) h
  have own := rel_filterTag (fun tag => !(tag == .merge)) h
  refine rel_map (rel_mapM (fun _ _ entry => entry.2.2.added) merged) fun _ _ added => ?_
  refine List.rel_append (List.rel_flatten added) ?_
  rw [List.forall₂_map_left_iff, List.forall₂_map_right_iff]
  refine own.imp fun d e entry => ⟨?_, entry.2.2.whole⟩
  rw [entry.1]
  exact alike_entryKey same entry.2.1

theorem alike_wholeMap {es fs : List (Tag × Meaning × Meaning)}
    (h : List.Forall₂ (EntryAlike R) es fs)
    (contents : ∀ name ∈ Node.namedFile tag (entriesText es), Alike R (file name) (other name)) :
    Staged.Alike R (mapMeaning file tag es).whole (mapMeaning other tag fs).whole := by
  have entries := alike_mappingEntries same h
  have spelled := alike_ofSpelling same contents
  have text : ((fs.find? fun e => e.1 == .value).bind fun e => e.2.2.text) = entriesText es :=
    (entriesText_congr h).symm
  unfold mapMeaning
  simp only [text]
  generalize mappingEntries es = x at entries ⊢
  generalize mappingEntries fs = y at entries ⊢
  cases tag with
  | map | set =>
    cases entries with
    | none => exact Staged.alike_refl same misfit
    | some all => exact alike_ofEntries _ all
  | timestamp => exact Staged.alike_refl same _
  | list | pairs | orderedMap => exact Staged.alike_refl same misfit
  | _ => exact spelled

theorem alike_mapMeaning {es fs : List (Tag × Meaning × Meaning)}
    (h : List.Forall₂ (EntryAlike R) es fs)
    (contents : ∀ name ∈ Node.namedFile tag (entriesText es), Alike R (file name) (other name)) :
    Meaning.Alike R (mapMeaning file tag es) (mapMeaning other tag fs) := by
  have whole : Staged.Alike R (mapMeaning file tag es).whole (mapMeaning other tag fs).whole :=
    alike_wholeMap same h contents
  have entries := alike_mappingEntries same h
  refine ⟨entriesText_congr h, whole, alike_keyOf same whole, entries, entries, ?_⟩
  unfold mapMeaning
  cases h with
  | nil => exact .none
  | cons own rest =>
    cases rest with
    | nil => exact .some ⟨own.2.1.whole, own.2.2.whole⟩
    | cons _ _ => exact .none

end

/-! ## Nodes -/

section

variable {file other : String → Except Problem Value}

mutual

theorem alike_meaning (same : ∀ p, R p p) : ∀ n : Node,
    (∀ name ∈ n.fileNames, Alike R (file name) (other name)) →
      Meaning.Alike R (meaning file n) (meaning other n)
  | .scalar tag text, h => alike_scalarMeaning same h
  | .list tag items, h => alike_listMeaning same (alike_meanings same items h)
  | .map tag entries, h => by
    refine alike_mapMeaning same
      (alike_entryMeanings same entries fun name mem => h name (List.mem_append_right _ mem)) ?_
    rw [text_entryMeanings]
    exact fun name mem => h name (List.mem_append_left _ mem)

theorem alike_meanings (same : ∀ p, R p p) : ∀ ns : List Node,
    (∀ name ∈ Node.itemFileNames ns, Alike R (file name) (other name)) →
      List.Forall₂ (Meaning.Alike R) (meanings file ns) (meanings other ns)
  | [], _ => .nil
  | n :: ns, h =>
    .cons (alike_meaning same n fun name mem => h name (List.mem_append_left _ mem))
      (alike_meanings same ns fun name mem => h name (List.mem_append_right _ mem))

theorem alike_entryMeanings (same : ∀ p, R p p) : ∀ es : List (Node × Node),
    (∀ name ∈ Node.entryFileNames es, Alike R (file name) (other name)) →
      List.Forall₂ (EntryAlike R) (entryMeanings file es) (entryMeanings other es)
  | [], _ => .nil
  | (k, v) :: es, h => by
    have key := alike_meaning same k fun name mem =>
      h name (List.mem_append_left _ (List.mem_append_left _ mem))
    have value := alike_meaning same v fun name mem =>
      h name (List.mem_append_left _ (List.mem_append_right _ mem))
    exact .cons ⟨rfl, key, value⟩
      (alike_entryMeanings same es fun name mem => h name (List.mem_append_right _ mem))

end

/-- Where the contents of the files that a text names end alike, so do its values. -/
theorem alike_read (same : ∀ p, R p p) {s : String}
    (contents : ∀ n, Node.ofText s = .ok n → ∀ name ∈ n.fileNames,
      Alike R (file name) (other name)) : Alike R (read file s) (read other s) := by
  unfold read
  cases spelled : Node.ofText s with
  | error p => exact .error (same p)
  | ok n => exact Staged.alike_outcome (alike_meaning same n (contents n spelled)).whole

end

end RamlDocs.Yaml
