import RamlDocs.Definition.Body
import RamlDocs.Proofs.Outcome
import RamlDocs.Proofs.Value.Depth

/-!
# Declared media types

A body facet lists bodies by media type, or it declares one body itself. A single test tells the two
forms apart: whether all keys have a slash. Where they all have one, each declared media type keeps
its body, in order. Where one has none, the whole mapping is read as one declaration, and the media
types in it are lost (`Body.kept_iff_of_all`): that declaration has the values of all its entries
inside of it, so that it is deeper than what any of them declares.
-/

namespace RamlDocs

variable {scope : Scope} {m : Mapping} {v : Value} {b : Body}

/-- Whether a key has a slash, as the names of media types have. -/
def Key.isSlashed (k : Key) : Bool := k.display.toList.contains '/'

/-- Whether a key declares a media type: its name has a slash, and it is no annotation. -/
def Key.declaresMediaType (k : Key) : Bool := k.isSlashed && (Scope.annotationName? k).isNone

namespace Body

/-- Only texts have a slash among the keys of a body facet. -/
def HasTextNames (m : Mapping) : Prop := ∀ e ∈ m, e.1.isSlashed = true → ∃ s, e.1 = .text s

/-- The entries of a body facet that declare media types. -/
def mediaEntries (m : Mapping) : Mapping := m.filter fun e => e.1.declaresMediaType

/-- Whether the media type of a body is declared in a body facet. -/
def isDeclaredIn (m : Mapping) (b : Body) : Bool :=
  (mediaEntries m).any fun e => e.1.display == b.mediaType

/-- Each declared media type has one body, which its own value describes, and these bodies are in
the order of the declarations. -/
def Kept (scope : Scope) (m : Mapping) (bs : List Body) : Prop :=
  List.Forall₂
    (fun e b => b.mediaType = e.1.display ∧ ofDeclaration scope e.1.display e.2 = .ok b)
    (mediaEntries m) (bs.filter (isDeclaredIn m))

/-! ## What a body keeps of its declaration -/

/-- The mapping that a body is read from: a declaration, completed by the type that it declares in
place. -/
def declared (v : Value) : Mapping :=
  match Facet.declaredType (Facet.declaration v) with
  | .map inner => Mapping.merge (Facet.declaration v) (Mapping.without inner "type")
  | _ => Facet.declaration v

/-- What a body takes from its declaration, part by part. -/
structure Read (mediaType : String) (v : Value) (b : Body) : Prop where
  name : b.mediaType = mediaType
  properties : Property.all ((declared v).get "properties") = .ok b.properties
  raw : b.raw = Mapping.overlay [(.text "name", .text mediaType)] (declared v)

theorem read_of_ofDeclaration {mediaType : String} (h : ofDeclaration scope mediaType v = .ok b) :
    Read mediaType v b := by
  suffices parts : b.mediaType = mediaType ∧
      Property.all ((declared v).get "properties") = .ok b.properties ∧
      b.raw = Mapping.overlay [(.text "name", .text mediaType)] (declared v) from
    ⟨parts.1, parts.2.1, parts.2.2⟩
  unfold ofDeclaration at h
  unfold declared
  dsimp only at h
  cases type : Facet.declaredType (Facet.declaration v)
  all_goals
    rw [type] at h
    obtain ⟨properties, own, h⟩ := bind_eq_ok.mp h
    obtain ⟨value, -, h⟩ := bind_eq_ok.mp h
    obtain ⟨examples, -, h⟩ := bind_eq_ok.mp h
    cases h
    exact ⟨rfl, own, rfl⟩

theorem raw_of_ofDeclaration {mediaType : String} (h : ofDeclaration scope mediaType v = .ok b) :
    b.mediaType = mediaType ∧
      b.raw = Mapping.overlay [(.text "name", .text mediaType)] (declared v) :=
  ⟨(read_of_ofDeclaration h).name, (read_of_ofDeclaration h).raw⟩

theorem exists_mem_of_declaredType {n inner : Mapping}
    (h : Facet.declaredType n = .map inner) : ∃ k, (k, .map inner) ∈ n := by
  unfold Facet.declaredType at h
  cases found : Mapping.get? n "type" with
  | some w =>
    rw [found] at h
    cases h
    obtain ⟨k, -, mem⟩ := Mapping.mem_of_find? found
    exact ⟨k, mem⟩
  | none =>
    rw [found] at h
    exact ⟨_, Mapping.mem_of_get h nofun⟩

/-- A mapping is read as it is, or completed by a mapping in it. -/
theorem declared_map_cases (n : Mapping) :
    declared (.map n) = n ∨ ∃ k inner, (k, .map inner) ∈ n ∧
      declared (.map n) = Mapping.merge n (Mapping.without inner "type") := by
  have read : Facet.declaration (.map n) = n := rfl
  rw [declared, read]
  split
  next inner type =>
    obtain ⟨k, mem⟩ := exists_mem_of_declaredType type
    exact .inr ⟨k, inner, mem, rfl⟩
  next => exact .inl rfl

theorem depthOfEntries_declared (n : Mapping) :
    depthOfEntries (declared (.map n)) ≤ depthOfEntries n := by
  rcases declared_map_cases n with same | ⟨k, inner, mem, merged⟩
  · exact Nat.le_of_eq (congrArg depthOfEntries same)
  · have inside : depthOfEntries inner + 1 ≤ depthOfEntries n :=
      depthOfEntries_le_iff.mp (Nat.le_refl _) _ mem
    have rest : depthOfEntries (Mapping.without inner "type") ≤ depthOfEntries inner :=
      depthOfEntries_le_iff.mpr fun e held =>
        depthOfEntries_le_iff.mp (Nat.le_refl _) e (List.mem_of_mem_filter held)
    rw [merged]
    exact depthOfEntries_merge_le (Nat.le_refl _) (by omega)

theorem distinct_declared (distinct : m.Distinct) : (declared (.map m)).Distinct := by
  rcases declared_map_cases m with same | ⟨_, _, _, merged⟩
  · rwa [same]
  · rw [merged]
    exact distinct.merge

/-- A body that a mapping declares keeps under each of its keys what the mapping has there. -/
theorem exists_deeper_of_ofDeclaration {mediaType : String} {k : Key} (distinct : m.Distinct)
    (mem : (k, v) ∈ m) (h : ofDeclaration scope mediaType (.map m) = .ok b) :
    ∃ u, Mapping.find? b.raw k = some u ∧ v.depth ≤ u.depth := by
  have own : Mapping.find? m k = some v := distinct.find?_of_mem mem
  have kept : ∃ u, Mapping.find? (declared (.map m)) k = some u ∧ v.depth ≤ u.depth := by
    rcases declared_map_cases m with same | ⟨_, _, _, merged⟩
    · exact ⟨v, by rw [same, own], Nat.le_refl _⟩
    · rw [merged]
      exact Mapping.exists_deeper_of_merge own
  obtain ⟨u, found, deeper⟩ := kept
  refine ⟨u, ?_, deeper⟩
  rw [(raw_of_ofDeclaration h).2, Mapping.find?_overlay (distinct_declared distinct), found]
  rfl

/-- A value that is no mapping declares at most a type. -/
theorem key_of_mem_raw {x : Value} {e : Key × Value} (flat : v.isMap = false)
    (mem : e ∈ Mapping.overlay [(.text "name", x)] (declared v)) :
    e.1 = .text "name" ∨ e.1 = .text "type" := by
  have typed (w : Value) (mem : e ∈ [(Key.text "name", x), (.text "type", w)]) :
      e.1 = .text "name" ∨ e.1 = .text "type" := by
    simp only [List.mem_cons, List.not_mem_nil, or_false] at mem
    rcases mem with rfl | rfl
    · exact .inl rfl
    · exact .inr rfl
  cases v with
  | map n => cases flat
  | text t => exact typed (.text t) mem
  | list vs => exact typed (.list vs) mem
  | _ => exact .inl (congrArg Prod.fst (List.mem_singleton.mp mem))

/-- What a body keeps under a name that is none of its facets lies inside of its declaration. -/
theorem depth_lt_of_raw {mediaType s : String} {u : Value}
    (h : ofDeclaration scope mediaType v = .ok b) (noName : s ≠ "name") (noType : s ≠ "type")
    (found : Mapping.find? b.raw (.text s) = some u) : u.depth < v.depth := by
  rw [(raw_of_ofDeclaration h).2] at found
  obtain ⟨k, same, mem⟩ := Mapping.mem_of_find? found
  cases isMap : v.isMap with
  | true =>
    rw [Value.eq_map_of_isMap isMap] at mem ⊢
    have bound := depthOfEntries_overlay_le (m := [(.text "name", .text mediaType)])
      (Nat.zero_le _) (depthOfEntries_declared v.entries)
    exact Nat.lt_succ_of_le (depthOfEntries_le_iff.mp bound _ mem)
  | false =>
    obtain rfl := (Key.same_text_iff k s).mp same
    rcases key_of_mem_raw isMap mem with name | type
    · exact absurd (Key.text.inj name) noName
    · exact absurd (Key.text.inj type) noType

/-- No body is declared by a mapping and by a value in it. -/
theorem ofDeclaration_ne_of_mem {mediaType other s : String} (distinct : m.Distinct)
    (mem : (.text s, v) ∈ m) (slash : s.toList.contains '/' = true)
    (whole : ofDeclaration scope mediaType (.map m) = .ok b) :
    ofDeclaration scope other v ≠ .ok b := by
  intro own
  obtain ⟨u, found, deeper⟩ := exists_deeper_of_ofDeclaration distinct mem whole
  have inside : u.depth < v.depth := by
    refine depth_lt_of_raw own ?_ ?_ found
    · rintro rfl
      cases slash
    · rintro rfl
      cases slash
  omega

/-! ## The two forms -/

theorem all_of_slashed (slashed : ∀ e ∈ m, e.1.isSlashed = true) (texts : HasTextNames m) :
    all scope (.map m) = m.mapM fun e => ofDeclaration scope e.1.display e.2 := by
  have media : m.allM (fun e => isMediaType e.1) = .ok true := by
    refine allM_eq_ok_true_iff.mpr fun e mem => ?_
    obtain ⟨s, text⟩ := texts e mem (slashed e mem)
    have slash := slashed e mem
    rw [text] at slash ⊢
    exact congrArg Except.ok slash
  have entries : m.mapM (ofEntry scope) =
      m.mapM fun e => ofDeclaration scope e.1.display e.2 := by
    have each : ∀ e ∈ m, ofEntry scope (id e) = ofDeclaration scope e.1.display e.2 := by
      intro e mem
      obtain ⟨s, text⟩ := texts e mem (slashed e mem)
      rw [id, ofEntry, text]
      rfl
    rw [← mapM_map_eq each, List.map_id]
  change (m.allM _ >>= _) = _
  rw [media, ← entries]
  rfl

theorem all_of_unslashed {bs : List Body} {e : Key × Value} (mem : e ∈ m)
    (unslashed : e.1.isSlashed = false) (h : all scope (.map m) = .ok bs) :
    ∃ b, ofDeclaration scope scope.mediaType (.map m) = .ok b ∧ bs = [b] := by
  change (m.allM _ >>= _) = _ at h
  obtain ⟨media, told, h⟩ := bind_eq_ok.mp h
  cases media with
  | true =>
    have slash := allM_eq_ok_true_iff.mp told e mem
    obtain ⟨s, text, slashed⟩ := map_eq_ok.mp slash
    rw [Key.eq_display_of_asText text] at slashed
    exact absurd slashed (Bool.eq_false_iff.mp unslashed)
  | false =>
    obtain ⟨b, came, rfl⟩ := map_eq_ok.mp h
    exact ⟨b, came, rfl⟩

/-! ## What is kept -/

/-- Of keys with a slash, those that declare media types are told by their names. -/
theorem isDeclaredIn_iff {e : Key × Value} (texts : HasTextNames m) (mem : e ∈ m)
    (slashed : e.1.isSlashed = true) (named : b.mediaType = e.1.display) :
    isDeclaredIn m b = true ↔ e.1.declaresMediaType = true := by
  rw [isDeclaredIn, List.any_eq_true]
  constructor
  · rintro ⟨f, inside, alike⟩
    obtain ⟨held, declares⟩ := List.mem_filter.mp inside
    obtain ⟨s, text⟩ := texts e mem slashed
    obtain ⟨t, other⟩ := texts f held (Bool.and_eq_true_iff.mp declares).1
    have same : t = s := by
      simpa [named, text, other, Key.display] using alike
    rw [text, ← same, ← other]
    exact declares
  · intro declares
    exact ⟨e, List.mem_filter.mpr ⟨mem, declares⟩, by simp [named]⟩

theorem kept_of_slashed {bs : List Body} (slashed : ∀ e ∈ m, e.1.isSlashed = true)
    (texts : HasTextNames m) (came : all scope (.map m) = .ok bs) : Kept scope m bs := by
  rw [all_of_slashed slashed texts] at came
  have each : List.Forall₂ (fun e b => e ∈ m ∧
      b.mediaType = e.1.display ∧ ofDeclaration scope e.1.display e.2 = .ok b) m bs := by
    refine ((List.forall₂_and_left _ _).mpr ⟨fun e mem => mem, mapM_eq_ok_iff.mp came⟩).imp ?_
    rintro e b ⟨mem, own⟩
    exact ⟨mem, (raw_of_ofDeclaration own).1, own⟩
  have kept := List.rel_filter (p := fun e => e.1.declaresMediaType) (q := isDeclaredIn m) ?_ each
  · exact kept.imp fun e b related => related.2
  · rintro e b ⟨mem, named, -⟩
    exact (isDeclaredIn_iff texts mem (slashed e mem) named).symm

theorem not_kept_of_unslashed {bs : List Body} {e f : Key × Value} (distinct : m.Distinct)
    (texts : HasTextNames m) (mem : e ∈ m) (unslashed : e.1.isSlashed = false) (inside : f ∈ m)
    (declares : f.1.declaresMediaType = true) (came : all scope (.map m) = .ok bs) :
    ¬ Kept scope m bs := by
  intro kept
  obtain ⟨whole, described, rfl⟩ := all_of_unslashed mem unslashed came
  have flipped : List.Forall₂
      (fun b e => b.mediaType = e.1.display ∧ ofDeclaration scope e.1.display e.2 = .ok b)
      ([whole].filter (isDeclaredIn m)) (mediaEntries m) := List.Forall₂.flip kept
  obtain ⟨b, held, -, own⟩ :=
    exists_of_mem_forall₂ flipped (List.mem_filter.mpr ⟨inside, declares⟩)
  obtain rfl := List.mem_singleton.mp (List.mem_of_mem_filter held)
  obtain ⟨k, v⟩ := f
  have slash : k.isSlashed = true := (Bool.and_eq_true_iff.mp declares).1
  obtain ⟨s, rfl⟩ := texts (k, v) inside slash
  exact ofDeclaration_ne_of_mem distinct inside slash described own

/-- Of a body facet with a slash in every key, every entry is a body. Whatever its bodies are, the
declared media types keep theirs exactly if every key has a slash or none declares a media type. -/
theorem kept_iff_of_all (distinct : m.Distinct) (texts : HasTextNames m) (scope : Scope) :
    ((∀ e ∈ m, e.1.isSlashed = true) →
        (Returns (all scope (.map m)) ↔
          ∀ e ∈ m, Returns (ofDeclaration scope e.1.display e.2))) ∧
      ∀ bs, all scope (.map m) = .ok bs →
        (Kept scope m bs ↔
          (∀ e ∈ m, e.1.isSlashed = true) ∨ ∀ e ∈ m, e.1.declaresMediaType = false) := by
  constructor
  · intro slashed
    rw [all_of_slashed slashed texts, returns_mapM_iff]
  · intro bs came
    constructor
    · intro kept
      by_contra neither
      simp only [not_or, not_forall, Bool.not_eq_true, Bool.not_eq_false] at neither
      obtain ⟨⟨e, mem, unslashed⟩, f, inside, declares⟩ := neither
      exact not_kept_of_unslashed distinct texts mem unslashed inside declares came kept
    · rintro (slashed | none_)
      · exact kept_of_slashed slashed texts came
      · have nothing : mediaEntries m = [] :=
          List.filter_eq_nil_iff.mpr fun e mem => by simp [none_ e mem]
        have undeclared : bs.filter (isDeclaredIn m) = [] :=
          List.filter_eq_nil_iff.mpr fun b _ => by simp [isDeclaredIn, nothing]
        rw [Kept, nothing, undeclared]
        exact .nil

/-- A definition with nothing else in it. -/
def bareScope : Scope where
  root := []
  libraries := []
  mediaType := "application/json"

/-- Two media types, and between them an annotation of which the name has a slash too. -/
def twoTypes : Mapping := [
  (.text "text/xml", .null), (.text "(house/note)", .text "A"),
  (.text "application/json", .record [("type", .text "string")])]

theorem kept_twoTypes :
    twoTypes.Distinct ∧ HasTextNames twoTypes ∧
      ∃ bs, all bareScope (.map twoTypes) = .ok bs ∧ Kept bareScope twoTypes bs := by
  have distinct : twoTypes.Distinct := by
    unfold Mapping.Distinct
    decide
  have texts : HasTextNames twoTypes := by
    simp [HasTextNames, twoTypes]
  have slashed : ∀ e ∈ twoTypes, e.1.isSlashed = true := by
    decide
  obtain ⟨returns, kept⟩ := kept_iff_of_all distinct texts bareScope
  have each : ∀ e ∈ twoTypes, Returns (ofDeclaration bareScope e.1.display e.2) := by
    intro e mem
    simp only [twoTypes, List.mem_cons, List.not_mem_nil, or_false] at mem
    rcases mem with rfl | rfl | rfl <;> exact ⟨_, rfl, trivial⟩
  obtain ⟨bs, came, -⟩ := (returns slashed).mpr each
  exact ⟨distinct, texts, bs, came, (kept bs came).mpr (.inl slashed)⟩

/-- A media type with an annotation beside it. -/
def notedType : Mapping := [
  (.text "application/json", .record [("type", .text "string")]), (.text "(note)", .text "x")]

/-- The one body has the right name, but nothing of what the media type declares. -/
theorem not_kept_notedType :
    notedType.Distinct ∧ HasTextNames notedType ∧
      ∃ b, all bareScope (.map notedType) = .ok [b] ∧ b.mediaType = "application/json" ∧
        b.types = [] ∧ ¬ Kept bareScope notedType [b] := by
  have distinct : notedType.Distinct := by
    unfold Mapping.Distinct
    decide
  have texts : HasTextNames notedType := by
    simp [HasTextNames, notedType]
  have came : Yields (all bareScope (.map notedType)) fun bs =>
      ∃ b, bs = [b] ∧ b.mediaType = "application/json" ∧ b.types = [] :=
    ⟨_, rfl, _, rfl, rfl, rfl⟩
  obtain ⟨_, came, b, rfl, named, untyped⟩ := came
  refine ⟨distinct, texts, b, came, named, untyped, ?_⟩
  exact not_kept_of_unslashed (e := (.text "(note)", .text "x"))
    (f := (.text "application/json", .record [("type", .text "string")])) distinct texts
    (by simp [notedType]) (by decide) (by simp [notedType]) (by decide) came

end Body

end RamlDocs
