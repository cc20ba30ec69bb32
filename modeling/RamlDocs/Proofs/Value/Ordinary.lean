import RamlDocs.Json.Obstacle
import RamlDocs.Proofs.Outcome
import RamlDocs.Proofs.Template.Literal
import RamlDocs.Value.Plain

/-!
# Ordinary values

What a definition is made of as a rule: mappings with text keys, lists, texts, booleans, null,
integers that can be written out and finite numbers, and nowhere the brackets that open a
placeholder. Such a value can be written as text and as JSON, is plain already, and stays as it is
when templates are filled in.
-/

namespace RamlDocs

/-- Whether the brackets that open a placeholder stand nowhere in a text. -/
def isUnbracketed (s : String) : Bool := !Text.contains ['<', '<'] s.toList

/-- Whether a number is one. -/
def Binary64.isFinite (x : Binary64) : Bool :=
  match x.magnitude with
  | .finite _ _ => true
  | _ => false

/-- Whether a key is a text without placeholders. -/
def isOrdinaryKey : Key → Bool
  | .text s => isUnbracketed s
  | _ => false

/-- Whether a scalar is one that definitions hold as a rule. -/
def isOrdinaryScalar : Value → Bool
  | .null => true
  | .bool _ => true
  | .int n => Numeral.isShort n
  | .float x => x.isFinite
  | .text s => isUnbracketed s
  | _ => false

/-- The vocabulary of definitions as a rule. -/
def ordinary : Vocabulary := ⟨isOrdinaryKey, isOrdinaryScalar, rfl⟩

/-- An ordinary value. -/
abbrev Value.Ordinary (v : Value) : Prop := v.within ordinary = true

/-- A mapping with ordinary keys and values. -/
abbrev Mapping.Ordinary (m : Mapping) : Prop := entriesWithin ordinary m = true

variable {k : Key} {v : Value} {m : Mapping}

theorem isLiteral_of_isUnbracketed {s : String} (h : isUnbracketed s = true) :
    Template.isLiteral s.toList = true :=
  Template.isLiteral_of_contains (by simpa [isUnbracketed] using h)

theorem exists_text_of_isOrdinaryKey (h : isOrdinaryKey k = true) : ∃ s, k = .text s := by
  cases k with
  | text s => exact ⟨s, rfl⟩
  | _ => cases h

theorem isShort_of_within {n : Int} (h : (Value.int n).within ordinary = true) :
    Numeral.isShort n = true := by
  simpa only [Value.within, ordinary, isOrdinaryScalar] using h

/-! ## Written out -/

theorem areWritable_iff {vs : List Value} :
    areWritable vs = true ↔ ∀ v ∈ vs, v.isWritable = true := by
  induction vs with
  | nil => simp [areWritable]
  | cons v vs ih => simp [areWritable, ih]

theorem entriesWritable_iff :
    entriesWritable m = true ↔ ∀ e ∈ m, e.1.isWritable = true ∧ e.2.isWritable = true := by
  induction m with
  | nil => simp [entriesWritable]
  | cons e m ih => simp [entriesWritable, ih]

theorem Value.isWritable_of_within (h : v.Ordinary) : v.isWritable = true := by
  refine Value.within_induction (P := fun v => v.isWritable = true) ?_ ?_ ?_ v h
  · intro v leaf scalar
    cases v with
    | list vs => cases leaf
    | map m => cases leaf
    | int n =>
      rw [Value.isWritable]
      exact isShort_of_within scalar
    | tuple vs => cases scalar
    | set ks => cases scalar
    | _ => rfl
  · exact fun vs all => areWritable_iff.mpr all
  · intro m within all
    refine entriesWritable_iff.mpr fun e mem => ⟨?_, all e mem⟩
    obtain ⟨s, text⟩ := exists_text_of_isOrdinaryKey ((entriesWithin_iff.mp within).2 e mem).1
    rw [text]
    rfl

theorem Value.returns_asText_iff : Returns v.asText ↔ v.isWritable = true := by
  unfold Value.asText
  split
  next short => simp [Yields, short]
  next long => simp [Yields, long]

theorem Key.returns_asText_iff : Returns k.asText ↔ k.isWritable = true := by
  unfold Key.asText
  split
  next short => simp [Yields, short]
  next long => simp [Yields, long]

theorem Value.returns_asText (h : v.Ordinary) : Returns v.asText :=
  ⟨_, Value.asText_eq_ok (Value.isWritable_of_within h), trivial⟩

theorem Key.returns_asText (h : ordinary.key k = true) : Returns k.asText := by
  obtain ⟨s, rfl⟩ := exists_text_of_isOrdinaryKey h
  exact ⟨s, rfl, trivial⟩

theorem itemsObstacle?_eq_none {asText : Bool} {vs : List Value}
    (h : ∀ v ∈ vs, Json.obstacle? asText v = none) : Json.itemsObstacle? asText vs = none := by
  induction vs with
  | nil => rfl
  | cons v vs ih =>
    obtain ⟨own, rest⟩ := List.forall_mem_cons.mp h
    rw [Json.itemsObstacle?, own]
    exact ih rest

theorem entriesObstacle?_eq_none {asText : Bool}
    (keys : ∀ e ∈ m, Json.keyObstacle? e.1 = none)
    (h : ∀ e ∈ m, Json.obstacle? asText e.2 = none) : Json.entriesObstacle? asText m = none := by
  induction m with
  | nil => rfl
  | cons e m ih =>
    obtain ⟨k, v⟩ := e
    obtain ⟨key, others⟩ := List.forall_mem_cons.mp keys
    obtain ⟨own, rest⟩ := List.forall_mem_cons.mp h
    rw [Json.entriesObstacle?, key, own]
    exact ih others rest

/-- Where no key and no scalar of a vocabulary stands in the way of JSON, no value does. -/
theorem obstacle?_of_vocabulary {V : Vocabulary} {asText : Bool}
    (keys : ∀ k, V.key k = true → Json.keyObstacle? k = none)
    (scalars : ∀ v, v.isLeaf = true → V.scalar v = true → Json.obstacle? asText v = none)
    (h : v.within V = true) : Json.obstacle? asText v = none := by
  refine Value.within_induction (P := fun v => Json.obstacle? asText v = none) scalars ?_ ?_ v h
  · exact fun vs all => itemsObstacle?_eq_none all
  · intro m within all
    have named := (entriesWithin_iff.mp within).2
    exact entriesObstacle?_eq_none (fun e mem => keys e.1 (named e mem).1) all

/-- Nothing stands in the way of JSON. -/
theorem obstacle?_of_within (asText : Bool) (h : v.Ordinary) :
    Json.obstacle? asText v = none := by
  refine obstacle?_of_vocabulary ?_ ?_ h
  · intro k key
    obtain ⟨s, rfl⟩ := exists_text_of_isOrdinaryKey key
    rfl
  · intro v leaf scalar
    cases v with
    | list vs => cases leaf
    | map m => cases leaf
    | int n => rw [Json.obstacle?, if_pos (isShort_of_within scalar)]
    | bytes bs => cases scalar
    | moment t => cases scalar
    | tuple vs => cases scalar
    | set ks => cases scalar
    | _ => rfl

/-! ## Plain -/

theorem plainItems_eq_ok {vs : List Value} (h : ∀ v ∈ vs, v.plain = .ok v) :
    plainItems vs = .ok vs := by
  induction vs with
  | nil => rfl
  | cons v vs ih =>
    obtain ⟨own, rest⟩ := List.forall_mem_cons.mp h
    rw [plainItems, own, ih rest]
    rfl

theorem plainEntries_eq_ok (keys : ∀ e ∈ m, ordinary.key e.1 = true)
    (h : ∀ e ∈ m, e.2.plain = .ok e.2) : plainEntries m = .ok m := by
  induction m with
  | nil => rfl
  | cons e m ih =>
    obtain ⟨k, v⟩ := e
    obtain ⟨key, others⟩ := List.forall_mem_cons.mp keys
    obtain ⟨own, rest⟩ := List.forall_mem_cons.mp h
    obtain ⟨s, rfl⟩ := exists_text_of_isOrdinaryKey key
    rw [plainEntries, own, ih others rest]
    rfl

theorem Value.plain_of_within (h : v.Ordinary) : v.plain = .ok v := by
  refine Value.within_induction (P := fun v => v.plain = .ok v) ?_ ?_ ?_ v h
  · intro v leaf scalar
    cases v with
    | list vs => cases leaf
    | map m => cases leaf
    | bytes bs => cases scalar
    | moment t => cases scalar
    | _ => rfl
  · intro vs all
    rw [Value.plain, plainItems_eq_ok all]
    rfl
  · intro m within all
    obtain ⟨distinct, own⟩ := entriesWithin_iff.mp within
    rw [Value.plain, plainEntries_eq_ok (fun e mem => (own e mem).1) all]
    exact congrArg (fun m => Except.ok (Value.map m)) (Mapping.overlay_of_distinct distinct)

theorem Mapping.plain_of_within (h : m.Ordinary) : m.plain = .ok m := by
  obtain ⟨distinct, own⟩ := entriesWithin_iff.mp h
  rw [Mapping.plain, plainEntries_eq_ok (fun e mem => (own e mem).1)
    fun e mem => Value.plain_of_within (own e mem).2]
  exact congrArg Except.ok (Mapping.overlay_of_distinct distinct)

end RamlDocs
