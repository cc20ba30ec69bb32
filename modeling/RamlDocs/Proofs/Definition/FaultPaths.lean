import RamlDocs.Proofs.Definition.Reporting

/-!
# Which file a fault names

Something is wrong with a file if it cannot be read or if its text is malformed (`Trouble`). A load
ends at a trouble if it ends in whatever is to be told about this trouble, each file being told of
by itself (`Api.EndsAt`). It is enough to tell of the trouble in two different ways
(`Api.endsAt_of_marks`).

A load that ends at a file that cannot be read names this file. One that ends at a malformed text
names the definition or the library that the text is part of. This is the file with the malformed
text unless that is included by others (`Api.load_of_endsAt`): then another file is named, whose own
text may be sound (`included_text_misnamed`).
-/

namespace RamlDocs

open Relation (ReflTransGen TransGen)

/-- What is wrong with a file. -/
inductive Trouble where
  | unreadable (path : Files.Path) (reason : Files.ReadFault)
  | malformed (path : Files.Path)
  deriving DecidableEq

/-- A problem as a fault, if a malformed text is told of as `f`. -/
def Yaml.Problem.toldAs (f : Fault) : Yaml.Problem → Fault
  | .malformed => f
  | .fault g => g

/-- Each file is told of by itself. -/
def Reporting.each (tell : Trouble → Fault) : Reporting where
  unreadable p reason := tell (.unreadable p reason)
  included p problem := .fault (problem.toldAs (tell (.malformed p)))
  opened p problem := problem.toldAs (tell (.malformed p))

/-- Loading ends at a trouble: it ends in whatever is to be told about it. -/
def Api.EndsAt (files : Files.Entry) (path : Files.Path) (t : Trouble) : Prop :=
  ∀ tell : Trouble → Fault, (Api.loadBy (.each tell) files path).outcome = .error (tell t)

/-! ## How a trouble is passed on -/

variable {files : Files.Entry} {path p q : Files.Path} {c : Reporting} {t : Trouble} {f g : Fault}

namespace Reporting

/-- A trouble is passed on from file to file as the problem `inside`, and becomes the fault `heard`
where a file is opened. -/
structure PassesOn (c : Reporting) (inside : Trouble → Yaml.Problem)
    (heard : Files.Path → Trouble → Fault) : Prop where
  unreadable : ∀ q reason, inside (.unreadable q reason) = .fault (c.unreadable q reason)
  unreadableHeard : ∀ p reason, heard p (.unreadable p reason) = c.unreadable p reason
  included : ∀ q, c.included q .malformed = inside (.malformed q)
  passed : ∀ q t, c.included q (inside t) = inside t
  passedFault : ∀ q f, c.included q (.fault f) = .fault f
  opened : ∀ p, c.opened p .malformed = heard p (.malformed p)
  openedPassed : ∀ p t, c.opened p (inside t) = heard p t
  openedFault : ∀ p f, c.opened p (.fault f) = f

/-- What is named: the file that cannot be read, or the opened file for a malformed text. -/
def named (p : Files.Path) : Trouble → Fault
  | .unreadable q reason => .rejected (.unreadable q reason)
  | .malformed _ => .rejected (.malformed p)

/-- What is passed on inside of texts. -/
def namedInside : Trouble → Yaml.Problem
  | .unreadable q reason => .fault (.rejected (.unreadable q reason))
  | .malformed _ => .malformed

theorem passesOn_outermost : outermost.PassesOn namedInside named where
  unreadable _ _ := rfl
  unreadableHeard _ _ := rfl
  included _ := rfl
  passed _ _ := rfl
  passedFault _ _ := rfl
  opened _ := rfl
  openedPassed p t := by cases t <;> rfl
  openedFault _ _ := rfl

theorem passesOn_each (tell : Trouble → Fault) :
    (each tell).PassesOn (fun t => .fault (tell t)) (fun _ t => tell t) where
  unreadable _ _ := rfl
  unreadableHeard _ _ := rfl
  included _ := rfl
  passed _ _ := rfl
  passedFault _ _ := rfl
  opened _ := rfl
  openedPassed _ _ := rfl
  openedFault _ _ := rfl

end Reporting

/-- A trouble that can be met in opening the file at `p`. -/
def Trouble.At (files : Files.Entry) (p : Files.Path) : Trouble → Prop
  | .unreadable q reason => files.readText q = .error reason
  | .malformed q => ReflTransGen (Includes files) p q

/-- A trouble that comes to the file at `p` from files that it includes. -/
def Trouble.Below (files : Files.Entry) (p : Files.Path) : Trouble → Prop
  | .unreadable q reason => files.readText q = .error reason
  | .malformed q => TransGen (Includes files) p q

namespace Trouble

theorem Below.at (h : t.Below files p) : t.At files p := by
  cases t with
  | unreadable q reason => exact h
  | malformed q => exact TransGen.to_reflTransGen h

theorem Below.head (edge : Includes files p q) (h : t.Below files q) : t.Below files p := by
  cases t with
  | unreadable q reason => exact h
  | malformed q => exact TransGen.head edge h

end Trouble

namespace Reporting

/-- Problems are the same, or what is passed on and told of a trouble further in. -/
inductive Seen (files : Files.Entry) (inside : Trouble → Yaml.Problem) (tell : Trouble → Fault)
    (p : Files.Path) : Yaml.Problem → Yaml.Problem → Prop
  | same (x : Yaml.Problem) : Seen files inside tell p x x
  | told {t : Trouble} (below : t.Below files p) :
      Seen files inside tell p (inside t) (.fault (tell t))

/-- Faults are the same, or what is heard and told of a trouble. -/
inductive Heard (files : Files.Entry) (heard : Files.Path → Trouble → Fault)
    (tell : Trouble → Fault) (p : Files.Path) : Fault → Fault → Prop
  | same (f : Fault) : Heard files heard tell p f f
  | told {t : Trouble} (met : t.At files p) : Heard files heard tell p (heard p t) (tell t)

theorem Heard.eq_or_exists {heard : Files.Path → Trouble → Fault} {tell : Trouble → Fault}
    (h : Heard files heard tell p f g) :
    f = g ∨ ∃ t : Trouble, t.At files p ∧ f = heard p t ∧ g = tell t := by
  cases h with
  | same => exact .inl rfl
  | @told t met => exact .inr ⟨t, met, rfl, rfl⟩

theorem PassesOn.related {inside : Trouble → Yaml.Problem} {heard : Files.Path → Trouble → Fault}
    (h : c.PassesOn inside heard) (files : Files.Entry) (tell : Trouble → Fault) :
    Related files c (each tell) (Seen files inside tell) (Heard files heard tell) where
  sameProblem _ x := .same x
  sameFault _ f := .same f
  unreadable p reason refused := by
    rw [← h.unreadableHeard]
    exact .told refused
  unreadableInside p q reason refused := by
    rw [← h.unreadable]
    exact .told refused
  included p q x y edge seen := by
    cases seen with
    | told below =>
      rw [h.passed]
      exact .told (below.head edge)
    | same =>
      cases x with
      | malformed =>
        rw [h.included]
        exact .told (TransGen.single edge)
      | fault f =>
        rw [h.passedFault]
        exact .same _
  opened p x y seen := by
    cases seen with
    | told below =>
      rw [h.openedPassed]
      exact .told below.at
    | same =>
      cases x with
      | malformed =>
        rw [h.opened]
        exact .told ReflTransGen.refl
      | fault f =>
        rw [h.openedFault]
        exact .same f

end Reporting

/-! ## Where a load ends -/

/-- Only one trouble is told of as `f`. -/
def Trouble.mark (t : Trouble) (f : Fault) (s : Trouble) : Fault := if s = t then f else .tooDeep

section

variable {inside : Trouble → Yaml.Problem} {heard : Files.Path → Trouble → Fault}

/-- A load that ends in what only one trouble is told of as has met this trouble, or it ends so
whatever is told. -/
theorem Api.heard_of_mark (h : c.PassesOn inside heard) (notable : f ≠ .tooDeep)
    (ends : (Api.loadBy (.each (t.mark f)) files path).outcome = .error f) :
    (Api.loadBy c files path).outcome = .error f ∨
      ∃ p, Api.Opens (Api.rootBy c files path) path p ∧ t.At files p ∧
        (Api.loadBy c files path).outcome = .error (heard p t) := by
  obtain ⟨g, fault, p, opened, related⟩ :=
    ((h.related files (t.mark f)).alike_load path).of_right_eq_error ends
  rcases related.eq_or_exists with rfl | ⟨s, met, rfl, told⟩
  · exact .inl fault
  · unfold Trouble.mark at told
    split at told
    next same => exact .inr ⟨p, opened, same ▸ met, same ▸ fault⟩
    next => exact absurd told notable

/-- What is told of a trouble in two ways shows where a load ends. -/
theorem Api.heard_of_marks (h : c.PassesOn inside heard) (notable : f ≠ .tooDeep)
    (notableToo : g ≠ .tooDeep) (apart : f ≠ g)
    (ends : (Api.loadBy (.each (t.mark f)) files path).outcome = .error f)
    (endsToo : (Api.loadBy (.each (t.mark g)) files path).outcome = .error g) :
    ∃ p, Api.Opens (Api.rootBy c files path) path p ∧ t.At files p ∧
      (Api.loadBy c files path).outcome = .error (heard p t) := by
  rcases Api.heard_of_mark h notable ends with fault | found
  · rcases Api.heard_of_mark h notableToo endsToo with other | found
    · rw [fault] at other
      exact absurd (Except.error.inj other) apart
    · exact found
  · exact found

end

theorem Api.endsAt_of_marks (notable : f ≠ .tooDeep) (notableToo : g ≠ .tooDeep) (apart : f ≠ g)
    (ends : (Api.loadBy (.each (t.mark f)) files path).outcome = .error f)
    (endsToo : (Api.loadBy (.each (t.mark g)) files path).outcome = .error g) :
    Api.EndsAt files path t := by
  intro tell
  obtain ⟨_, _, _, told⟩ :=
    Api.heard_of_marks (Reporting.passesOn_each tell) notable notableToo apart ends endsToo
  exact told

/-- Where a load ends at a trouble, the library names what it makes of it. -/
theorem Api.EndsAt.exists_named (ends : Api.EndsAt files path t) :
    ∃ p, Api.Opens (Api.rootAt files path) path p ∧ t.At files p ∧
      (Api.load files path).outcome = .error (Reporting.named p t) := by
  have marked : ∀ f, (Api.loadBy (.each (t.mark f)) files path).outcome = .error f := by
    intro f
    rw [ends (t.mark f), Trouble.mark, if_pos rfl]
  rw [← Api.rootBy_outermost, ← Api.loadBy_outermost]
  exact Api.heard_of_marks Reporting.passesOn_outermost (f := .cyclic) (g := .hugeIndent)
    (by decide) (by decide) (by decide) (marked _) (marked _)

/-! ## Which file is named -/

/-- A file that no file includes is reached from itself alone. -/
theorem eq_of_not_included (alone : ∀ r, ¬ Includes files r q)
    (way : ReflTransGen (Includes files) p q) : p = q := by
  cases way with
  | refl => rfl
  | tail _ edge => exact absurd edge (alone _)

/-- A load that ends at a malformed text names the definition or a library from which the file with
the text is included, and so that file itself where no file includes it. A load that ends at a file
that cannot be read names that file. -/
theorem Api.load_of_endsAt (files : Files.Entry) (path : Files.Path) :
    (∀ q, Api.EndsAt files path (.malformed q) →
      ∃ p, Api.Opens (Api.rootAt files path) path p ∧ ReflTransGen (Includes files) p q ∧
        (Api.load files path).outcome = .error (.rejected (.malformed p)) ∧
        ((∀ r, ¬ Includes files r q) → p = q)) ∧
    ∀ q reason, Api.EndsAt files path (.unreadable q reason) →
      files.readText q = .error reason ∧
        (Api.load files path).outcome = .error (.rejected (.unreadable q reason)) := by
  constructor
  · intro q ends
    obtain ⟨p, opened, way, named⟩ := ends.exists_named
    exact ⟨p, opened, way, named, fun alone => eq_of_not_included alone way⟩
  · intro q reason ends
    obtain ⟨_, _, refused, named⟩ := ends.exists_named
    exact ⟨refused, named⟩

/-- A definition that uses a library with a bracket that is never closed. -/
def shopFiles : Files.Entry :=
  .dir [("api.raml", .file ("#%RAML 1.0\nuses:\n  shop: lib.raml\n".toList.map Char.toNat)),
    ("lib.raml", .file ("types: [\n".toList.map Char.toNat))]

theorem load_of_endsAt_shop :
    Api.EndsAt shopFiles ⟨["api.raml"]⟩ (.malformed ⟨["lib.raml"]⟩) ∧
      ∃ p, Api.Opens (Api.rootAt shopFiles ⟨["api.raml"]⟩) ⟨["api.raml"]⟩ p ∧
        ReflTransGen (Includes shopFiles) p ⟨["lib.raml"]⟩ ∧
        (Api.load shopFiles ⟨["api.raml"]⟩).outcome = .error (.rejected (.malformed p)) ∧
        ((∀ r, ¬ Includes shopFiles r ⟨["lib.raml"]⟩) → p = ⟨["lib.raml"]⟩) := by
  have ends : Api.EndsAt shopFiles ⟨["api.raml"]⟩ (.malformed ⟨["lib.raml"]⟩) :=
    Api.endsAt_of_marks (f := .cyclic) (g := .hugeIndent) (by decide) (by decide) (by decide)
      (fault?_eq_some_iff.mp (by decide +kernel)) (fault?_eq_some_iff.mp (by decide +kernel))
  exact ⟨ends, (Api.load_of_endsAt shopFiles ⟨["api.raml"]⟩).1 _ ends⟩

/-- A definition that includes a text with a bracket that is never closed. -/
def brokenFiles : Files.Entry :=
  .dir [("api.raml", .file ("#%RAML 1.0\ntitle: !include bad.yaml\n".toList.map Char.toNat)),
    ("bad.yaml", .file ("a: [\n".toList.map Char.toNat))]

/-- The load ends at the included text, and names the file that includes it. -/
theorem included_text_misnamed :
    Api.EndsAt brokenFiles ⟨["api.raml"]⟩ (.malformed ⟨["bad.yaml"]⟩) ∧
      (Api.load brokenFiles ⟨["api.raml"]⟩).outcome =
        .error (.rejected (.malformed ⟨["api.raml"]⟩)) := by
  refine ⟨?_, fault?_eq_some_iff.mp (by decide +kernel)⟩
  exact Api.endsAt_of_marks (f := .cyclic) (g := .hugeIndent) (by decide) (by decide) (by decide)
    (fault?_eq_some_iff.mp (by decide +kernel)) (fault?_eq_some_iff.mp (by decide +kernel))

end RamlDocs
