import RamlDocs.Proofs.Text.Pieces
import RamlDocs.View.Registry

/-!
# References and keys

What a reference finds is told by its pieces (`find?_eq_some_iff`). A type that is found is known by
its key, the reference to it from outside its library. The key is the reference itself without the
blanks around it (`key_eq_trimmed`), so it finds the same type again (`find?_key`), and no two types
that can be found share one (`key_injective`). That is all that a walk along the parents needs to
tell whether it has met a type before (`canonicalKeys_of_found`).
-/

namespace RamlDocs.Registry

/-- A type with the alias of the library that declares it, none for the definition itself. -/
abbrev Declared := Option String × TypeDecl

/-- The name by which a declared type is known. -/
def key (a : Declared) : String := qualify a.1 a.2.name

variable {registry : Registry} {reference : String} {a b : Declared}

theorem name_eq_of_named? {types : List TypeDecl} {name : String} {t : TypeDecl}
    (h : named? types name = some t) : t.name = name := by
  simpa using List.find?_some h

/-- The types that the definition declares, or the library of an alias. -/
def typesOf (registry : Registry) : Option String → List TypeDecl
  | none => registry.types
  | some owner => ((registry.libraries.lookup owner).map (·.types)).getD []

theorem find?_of_name {name : String}
    (pieces : Text.splitAt '.' (Text.trimmed reference) = [name]) :
    registry.find? reference = (named? (registry.typesOf none) name).map fun t => (none, t) := by
  unfold find?
  rw [pieces]
  rfl

theorem find?_of_alias {owner name : String}
    (pieces : Text.splitAt '.' (Text.trimmed reference) = [owner, name]) :
    registry.find? reference =
      (named? (registry.typesOf (some owner)) name).map fun t => (some owner, t) := by
  unfold find?
  rw [pieces]
  simp only [typesOf]
  cases registry.libraries.lookup owner <;> rfl

/-- A name without a point and without blanks around it is looked up in the definition. -/
theorem find?_of_not_mem {name : String} (plain : '.' ∉ name.toList)
    (solid : Text.trimmed name = name) :
    registry.find? name = (named? registry.types name).map fun t => (none, t) :=
  find?_of_name (by rw [solid, Text.splitAt_of_not_mem plain])

/-- What a reference finds: its pieces are the alias, if there is one, and the name, and the type is
the first of the name that is declared there. -/
theorem find?_eq_some_iff :
    registry.find? reference = some a ↔
      Text.splitAt '.' (Text.trimmed reference) = a.1.toList ++ [a.2.name] ∧
        named? (registry.typesOf a.1) a.2.name = some a.2 := by
  constructor
  · intro h
    have found := h
    unfold find? at found
    split at found
    next name pieces =>
      rw [find?_of_name pieces] at h
      obtain ⟨t, first, rfl⟩ := Option.map_eq_some_iff.mp h
      obtain rfl := name_eq_of_named? first
      exact ⟨pieces, first⟩
    next owner name pieces =>
      rw [find?_of_alias pieces] at h
      obtain ⟨t, first, rfl⟩ := Option.map_eq_some_iff.mp h
      obtain rfl := name_eq_of_named? first
      exact ⟨pieces, first⟩
    next => cases found
  · rintro ⟨pieces, first⟩
    obtain ⟨_ | owner, t⟩ := a
    · rw [find?_of_name pieces, first]
      rfl
    · rw [find?_of_alias pieces, first]
      rfl

/-- Blanks around a reference do not matter. -/
theorem find?_trimmed (registry : Registry) (reference : String) :
    registry.find? (Text.trimmed reference) = registry.find? reference := by
  unfold find?
  rw [Text.trimmed_trimmed]

theorem find?_of_spelledAlike {other : String} (h : Text.SpelledAlike other reference) :
    registry.find? other = registry.find? reference := by
  rw [← find?_trimmed, Text.spelledAlike_iff.mp h, find?_trimmed]

theorem key_eq_trimmed (h : registry.find? reference = some a) :
    key a = Text.trimmed reference := by
  obtain ⟨pieces, -⟩ := find?_eq_some_iff.mp h
  obtain ⟨_ | owner, t⟩ := a
  · exact (Text.splitAt_eq_singleton pieces).1
  · obtain ⟨joined, free⟩ := Text.splitAt_eq_pair pieces
    have local_ : ¬ t.name.toList.contains '.' = true := by simpa using free
    calc key (some owner, t) = owner ++ "." ++ t.name := if_neg local_
      _ = Text.trimmed reference := joined.symm

/-- The key of a type that is found is a reference to it. -/
theorem find?_key (h : registry.find? reference = some a) : registry.find? (key a) = some a := by
  rw [key_eq_trimmed h, find?_trimmed, h]

theorem key_injective {other : String} (ha : registry.find? reference = some a)
    (hb : registry.find? other = some b) (same : key a = key b) : a = b := by
  have found := find?_key ha
  rw [same, find?_key hb] at found
  exact (Option.some.inj found).symm

/-- A type that is found is one of the definition or of a library. -/
theorem mem_types_of_find? {reference : String} {a : Declared}
    (h : registry.find? reference = some a) :
    a.2 ∈ registry.types ++ registry.libraries.flatMap (·.2.types) := by
  have held := named?_mem (find?_eq_some_iff.mp h).2
  obtain ⟨_ | owner, t⟩ := a
  · exact List.mem_append_left _ held
  · refine List.mem_append_right _ ?_
    simp only [typesOf] at held
    cases entry : registry.libraries.lookup owner with
    | none =>
      rw [entry] at held
      cases held
    | some library =>
      rw [entry] at held
      exact List.mem_flatMap.mpr ⟨_, lookup_mem entry, held⟩

/-! ## The library of a reference -/

/-- The alias of the library that a reference names. -/
def alias? (reference : String) : Option String :=
  match Text.splitAt '.' (Text.trimmed reference) with
  | [owner, _] => some owner
  | _ => none

/-- A reference with a point is no name alone: the point is still there once the blanks are gone. -/
theorem splitAt_trimmed_ne_singleton (dotted : '.' ∈ reference.toList) (name : String) :
    Text.splitAt '.' (Text.trimmed reference) ≠ [name] := by
  intro pieces
  have kept := Text.mem_trim_of_mem (c := '.') (by decide) dotted
  obtain ⟨rfl, free⟩ := Text.splitAt_eq_singleton pieces
  exact free (by simpa [Text.trimmed] using kept)

/-- What a reference with a point finds depends on the library that it names alone. -/
theorem find?_congr_of_alias {other : Registry} (dotted : '.' ∈ reference.toList)
    (same : ∀ owner, alias? reference = some owner →
      registry.libraries.lookup owner = other.libraries.lookup owner) :
    registry.find? reference = other.find? reference := by
  unfold find?
  split
  next name hs => exact absurd hs (splitAt_trimmed_ne_singleton dotted name)
  next owner name hs =>
    have named : alias? reference = some owner := by simp [alias?, hs]
    rw [same owner named]
  next => rfl

/-- The alias of a library that declares a type has no point and no blank at its start, and it is
the alias that the reference names. -/
theorem alias?_of_find? {owner : String} {t : TypeDecl}
    (h : registry.find? reference = some (some owner, t)) :
    alias? reference = some owner ∧ '.' ∉ owner.toList ∧
      Text.trimLeft owner.toList = owner.toList := by
  have pieces : Text.splitAt '.' (Text.trimmed reference) = [owner, t.name] :=
    (find?_eq_some_iff.mp h).1
  obtain ⟨joined, -⟩ := Text.splitAt_eq_pair pieces
  refine ⟨by simp [alias?, pieces], ?_, ?_⟩
  · obtain ⟨cs, rest, split_, rfl, -⟩ := List.map_eq_cons_iff.mp pieces
    simpa using Text.not_mem_of_mem_splitWhere (split_ ▸ List.mem_cons_self)
  · have solid := Text.trimLeft_trim reference.toList
    have text : Text.trim reference.toList = owner.toList ++ '.' :: t.name.toList := by
      have := congrArg String.toList joined
      simpa [Text.trimmed] using this
    rw [text] at solid
    exact Text.trimLeft_of_append_cons solid

/-- A name after an alias is split after the alias first. -/
theorem splitAt_trimmed_append {owner : String} (free : '.' ∉ owner.toList)
    (start : Text.trimLeft owner.toList = owner.toList) (name : String) :
    Text.splitAt '.' (Text.trimmed (owner ++ "." ++ name)) =
      owner :: Text.splitAt '.' (String.ofList (Text.trimRight name.toList)) := by
  have point : Text.isBlank '.' = false := by decide
  have text : (owner ++ "." ++ name).toList = owner.toList ++ '.' :: name.toList := by simp
  refine Text.splitAt_of_toList ?_ free
  rw [Text.trimmed, Text.trim, text, Text.trimLeft_append_cons start point,
    Text.trimRight_append_cons _ point, String.toList_ofList, String.toList_ofList]

/-- A reference with an alias names the library of that alias or none. -/
theorem eq_of_alias?_append {owner name other : String} (free : '.' ∉ owner.toList)
    (start : Text.trimLeft owner.toList = owner.toList)
    (h : alias? (owner ++ "." ++ name) = some other) : other = owner := by
  unfold alias? at h
  rw [splitAt_trimmed_append free start] at h
  split at h
  next first rest same =>
    obtain ⟨rfl, -⟩ := List.cons.inj same
    exact (Option.some.inj h).symm
  next => cases h

theorem key_mem_keys (h : registry.find? reference = some a) : key a ∈ registry.keys :=
  qualify_mem_keys h

/-! ## Canonical keys -/

/-- What makes keys canonical, told of two references and the types that they find. -/
structure CanonicalKeys (registry : Registry) (reference other : String) (a b : Declared) :
    Prop where
  /-- The key of a type is a reference to it. -/
  found : registry.find? (key a) = some a
  /-- Types share a key if they have the same alias, or none, and the same name. -/
  shared_iff : key a = key b ↔ a.1 = b.1 ∧ a.2.name = b.2.name
  /-- Then they are one type, the first of the name that is declared there. -/
  one : a.1 = b.1 → a.2.name = b.2.name →
    a = b ∧ named? (registry.typesOf a.1) a.2.name = some a.2
  /-- They share a key exactly if the references are the same but for the blanks around them. -/
  spelled_iff : key a = key b ↔ Text.SpelledAlike reference other
  /-- However the reference is spelled, it finds the type. -/
  spelling : ∀ r, Text.SpelledAlike r reference → registry.find? r = some a
  /-- No type of the definition shares a key with one of a library. -/
  apart : a.1 = none → b.1 ≠ none → key a ≠ key b

/-- Whatever names and aliases a registry has, and however often, the keys of the types that can be
found are canonical. -/
theorem canonicalKeys_of_found {other : String} (ha : registry.find? reference = some a)
    (hb : registry.find? other = some b) : registry.CanonicalKeys reference other a b := by
  have alike : a.1 = b.1 → a.2.name = b.2.name → key a = key b := by
    intro owner name
    rw [key, key, owner, name]
  have one : key a = key b → a = b := key_injective ha hb
  constructor
  case found => exact find?_key ha
  case shared_iff =>
    constructor
    · intro same
      rw [one same]
      exact ⟨rfl, rfl⟩
    · rintro ⟨owner, name⟩
      exact alike owner name
  case one =>
    intro owner name
    exact ⟨one (alike owner name), (find?_eq_some_iff.mp ha).2⟩
  case spelled_iff => rw [key_eq_trimmed ha, key_eq_trimmed hb, Text.spelledAlike_iff]
  case spelling =>
    intro r h
    rw [find?_of_spelledAlike h, ha]
  case apart =>
    intro own foreign same
    rw [one same] at own
    exact foreign own

/-- A library without a name, and names that come twice or begin with a blank. -/
def oddlyNamed : Registry where
  libraries := [("", { name := "", types := [{ name := " T" }, { name := "T" }] })]
  types := [{ name := "T", parents := ["T"] }, { name := "T" }, { name := "" }]

theorem canonicalKeys_oddlyNamed :
    oddlyNamed.find? " . T\t" = some (some "", { name := " T" }) ∧
      oddlyNamed.find? "T " = some (none, { name := "T", parents := ["T"] }) ∧
      oddlyNamed.CanonicalKeys " . T\t" "T " (some "", { name := " T" })
        (none, { name := "T", parents := ["T"] }) :=
  ⟨rfl, rfl, canonicalKeys_of_found rfl rfl⟩

end RamlDocs.Registry
