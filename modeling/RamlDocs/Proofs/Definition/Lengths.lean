import RamlDocs.Proofs.Definition.Reading
import RamlDocs.Proofs.Definition.UriPath
import RamlDocs.Proofs.Number.Integer
import RamlDocs.Proofs.Value.Plain

/-!
# Lengths of parameters

A least or greatest length may be written as any value. Integers stand for themselves, floating
point numbers for their integral part, texts for the integer that they spell, and all other values
for no length at all; so each declared parameter comes out, in order, with the lengths that its
declaration stands for. One kind of value has no place in this: an infinite number ends the reading
of all parameters, where what is not a number is no length (`Parameter.measured_of_plain`). The only
other thing to end it is a description that holds an integer too long to be written.
-/

namespace RamlDocs

variable {v : Value} {m : Mapping}

/-! ## Values as lengths -/

/-- The integer that a value stands for as a length, if there is one. -/
inductive Value.Denotes : Value → Int → Prop
  | int (n : Int) : Denotes (.int n) n
  | float {x : Binary64} {n : Int} (part : x.HasIntegralPart n) : Denotes (.float x) n
  | text {s : String} {n : Int} (spelled : Numeral.Spells s n) : Denotes (.text s) n

/-- Whether a value is an infinite number. -/
def Value.IsInfinite (v : Value) : Prop := ∃ x, v = .float x ∧ x.magnitude = .infinite

/-- The value whose text a description is. -/
def Facet.described : Value → Value
  | .map m => Mapping.get m "value"
  | v => v

namespace Facet

/-- An infinite number cannot be read as a length, and any other value is read as the integer that
it stands for or as none. -/
theorem int?_cases (v : Value) :
    (v.IsInfinite ∧ int? v = .error .infiniteLength) ∨
      (¬ v.IsInfinite ∧ Yields (int? v) fun length => ∀ n, length = some n ↔ v.Denotes n) := by
  cases v with
  | int n =>
    refine .inr ⟨nofun, some n, rfl, fun k => ?_⟩
    constructor
    · intro same
      cases same
      exact .int n
    · intro denotes
      cases denotes
      rfl
  | float x =>
    have part : ∀ n, x.truncate? = some n ↔ (Value.float x).Denotes n := by
      intro n
      rw [Binary64.truncate?_eq_some_iff]
      constructor
      · exact .float
      · intro denotes
        cases denotes with
        | float part => exact part
    cases size : x.magnitude with
    | infinite => exact .inl ⟨⟨x, rfl, size⟩, by simp [int?, size]⟩
    | _ =>
      refine .inr ⟨?_, x.truncate?, by simp [int?, size], part⟩
      rintro ⟨_, same, infinite⟩
      cases same
      rw [size] at infinite
      cases infinite
  | text s =>
    refine .inr ⟨nofun, ?_⟩
    have spelled : ∀ n, Numeral.readInt 10 s = .ok n ↔ (Value.text s).Denotes n := by
      intro n
      rw [Numeral.readInt_eq_ok_iff]
      constructor
      · exact .text
      · intro denotes
        cases denotes with
        | text spelled => exact spelled
    unfold int?
    cases came : Numeral.readInt 10 s with
    | ok n => exact ⟨some n, by simp [came], fun k => by rw [← spelled, came]; simp⟩
    | error f => exact ⟨none, by simp [came], fun k => by rw [← spelled, came]; simp⟩
  | _ => exact .inr ⟨nofun, none, rfl, fun n => iff_of_false nofun nofun⟩

theorem returns_int?_iff : Returns (int? v) ↔ ¬ v.IsInfinite := by
  rcases int?_cases v with ⟨infinite, failed⟩ | ⟨finite, length, came, -⟩
  · exact iff_of_false (by rw [failed]; rintro ⟨_, same, -⟩; cases same) (not_not_intro infinite)
  · exact iff_of_true ⟨length, came, trivial⟩ finite

theorem denotes_of_int? {length : Option Int} (came : int? v = .ok length) :
    ∀ n, length = some n ↔ v.Denotes n := by
  rcases int?_cases v with ⟨-, failed⟩ | ⟨-, other, same, denotes⟩
  · rw [failed] at came
    cases came
  · rw [same] at came
    cases came
    exact denotes

/-- The text of a facet is that of the value that it describes, and none for null. -/
theorem text?_eq_described (v : Value) :
    text? v =
      match described v with
      | .null => .ok none
      | w => w.asText.map some := by
  cases v <;> rfl

theorem returns_text?_iff : Returns (text? v) ↔ (described v).isWritable = true := by
  rw [text?_eq_described]
  split
  next none_ =>
    rw [none_]
    exact iff_of_true ⟨none, rfl, trivial⟩ rfl
  next => exact returns_map_iff.trans Value.returns_asText_iff

end Facet

/-! ## Parameters -/

/-- Whether a parameter can be read from a declaration. -/
structure Parameter.Readable (declared : Value) : Prop where
  minLength : ¬ ((Facet.declaration declared).get "minLength").IsInfinite
  maxLength : ¬ ((Facet.declaration declared).get "maxLength").IsInfinite
  description : (Facet.described ((Facet.declaration declared).get "description")).isWritable = true

/-- Whether a parameter has the name and the lengths that an entry declares. -/
structure Parameter.Measured (e : Key × Value) (p : Parameter) : Prop where
  name : (Facet.optionalName e.1).map (·.1) = .ok p.name
  minLength : ∀ n, p.minLength = some n ↔ ((Facet.declaration e.2).get "minLength").Denotes n
  maxLength : ∀ n, p.maxLength = some n ↔ ((Facet.declaration e.2).get "maxLength").Denotes n

namespace Parameter

theorem measured_of_ofDeclaration {e : Key × Value} {p : Parameter}
    (h : ofDeclaration e.1 e.2 = .ok p) : Measured e p :=
  have read := read_of_ofDeclaration h
  ⟨read.name, Facet.denotes_of_int? read.minLength, Facet.denotes_of_int? read.maxLength⟩

theorem returns_ofDeclaration_iff {k : Key} (key : textual.key k = true)
    (plain : v.within textual = true) : Returns (ofDeclaration k v) ↔ Readable v := by
  constructor
  · rintro ⟨p, came, -⟩
    have read := read_of_ofDeclaration came
    exact ⟨Facet.returns_int?_iff.mp ⟨_, read.minLength, trivial⟩,
      Facet.returns_int?_iff.mp ⟨_, read.maxLength, trivial⟩,
      Facet.returns_text?_iff.mp ⟨_, read.description, trivial⟩⟩
  · intro readable
    obtain ⟨s, rfl⟩ := exists_text_of_textual key
    have decl : entriesWithin textual (Facet.declaration v) = true :=
      Facet.within_declaration rfl plain
    have example_ := Facet.yields_exampleValue_within (fun _ => exists_text_of_textual)
      (Value.within_get decl "example")
    have name : Returns (Facet.optionalName (.text s)) := ⟨_, rfl, trivial⟩
    refine name.bind fun _ _ => ?_
    refine (Facet.returns_text?_iff.mpr readable.description).bind fun _ _ => ?_
    refine example_.bind fun _ _ => ?_
    refine (Facet.returns_int?_iff.mpr readable.minLength).bind fun _ _ => ?_
    refine (Facet.returns_int?_iff.mpr readable.maxLength).bind fun _ _ => ?_
    exact ⟨_, rfl, trivial⟩

/-- The parameters of a plain mapping are read if and only if no length in it is an infinite number
and no description holds an integer that is too long to be written. There is one for each of its
keys then, in order, with the lengths that stand for an integer and no others; what follows are the
further variables, which have no lengths. -/
theorem measured_of_plain {raw m : Mapping} (plain : raw.plain = .ok m) (names : List String) :
    (Returns (all (.map m) names) ↔ ∀ e ∈ m, Readable e.2) ∧
      ∀ ps, all (.map m) names = .ok ps →
        ∃ declared implied, ps = declared ++ implied ∧ List.Forall₂ Measured m declared ∧
          implied = (undeclared (declared.map (·.name)) names).map implicit := by
  have entries := (entriesWithin_iff.mp (Mapping.within_plain plain)).2
  constructor
  · rw [all, returns_map_iff, declared, returns_mapM_iff]
    exact forall₂_congr fun e mem =>
      returns_ofDeclaration_iff (entries e mem).1 (entries e mem).2
  · intro ps came
    obtain ⟨declared, each, rfl⟩ := map_eq_ok.mp came
    have measured := (mapM_eq_ok_iff.mp each).imp fun e p => measured_of_ofDeclaration
    exact ⟨declared, _, rfl, measured, rfl⟩

/-- Lengths of many kinds: an integer; a text with blanks, a sign, digits of two scripts and a low
line; a fraction; what is not a number; a boolean, a list and a text that spell none. -/
def measures : Mapping :=
  [("whole", .record [("minLength", .int 2), ("maxLength", .text " +1_\u0660\n")]),
    ("parts?", .record [("minLength", .float ⟨0xc004000000000000⟩), ("maxLength", .float .nan)]),
    ("none", .record [("minLength", .bool true), ("maxLength", .list [.int 1])]),
    ("words", .record [("minLength", .text "2.0"), ("maxLength", .text "1__0")]),
    ("bare", .text "integer")].map fun e => (.text e.1, e.2)

theorem measured_measures :
    measures.plain = .ok measures ∧ (∀ e ∈ measures, Readable e.2) ∧
      ∃ declared implied, all (.map measures) ["bare", "x"] = .ok (declared ++ implied) ∧
        List.Forall₂ Measured measures declared ∧
        implied = (undeclared (declared.map (·.name)) ["bare", "x"]).map implicit ∧
        (declared ++ implied).map (fun p => (p.name, p.minLength, p.maxLength)) =
          [("whole", some 2, some 10), ("parts", some (-2), none), ("none", none, none),
            ("words", none, none), ("bare", none, none), ("x", none, none)] := by
  have plain : measures.plain = .ok measures := rfl
  have shown : (all (.map measures) ["bare", "x"]).toOption.map
      (fun ps => ps.map fun p => (p.name, p.minLength, p.maxLength)) =
        some [("whole", some 2, some 10), ("parts", some (-2), none), ("none", none, none),
          ("words", none, none), ("bare", none, none), ("x", none, none)] := by
    decide +kernel
  obtain ⟨ps, came, lengths⟩ := exists_ok_of_toOption shown
  obtain ⟨returns, read⟩ := measured_of_plain plain ["bare", "x"]
  obtain ⟨declared, implied, rfl, measured, rest⟩ := read ps came
  exact ⟨plain, returns.mp ⟨_, came, trivial⟩, declared, implied, came, measured, rest, lengths⟩

/-- A parameter with an infinite number for a length. -/
def endless : Mapping :=
  [(.text "p", .record [("minLength", .float .positiveInfinity)])]

/-- Where not a number would be no length, an infinite one ends the reading of all parameters. -/
theorem infiniteLength_endless :
    endless.plain = .ok endless ∧ all (.map endless) [] = .error .infiniteLength :=
  ⟨rfl, rfl⟩

end Parameter

end RamlDocs
