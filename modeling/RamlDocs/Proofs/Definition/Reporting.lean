import Mathlib.Logic.Relation
import RamlDocs.Definition.Source
import RamlDocs.Proofs.Yaml.Meaning

/-!
# Reading files and reporting trouble

What is read from files does not depend on how trouble with them is reported. Reading is stated here
with the reports left open (`Reporting`); reading as the library does it is one case
(`Reporting.outermost`, `Api.loadBy_outermost`). Two ways of reporting come to the same definition,
or to faults that are related as the reports are (`Reporting.Related.alike_load`). A problem travels
from a file to the files that include it, so the relation may differ from path to path.
-/

namespace RamlDocs

/-- How trouble with files is reported. -/
structure Reporting where
  /-- A file cannot be read as text. -/
  unreadable : Files.Path → Files.ReadFault → Fault
  /-- What becomes of a problem of a file in a text that includes the file. -/
  included : Files.Path → Yaml.Problem → Yaml.Problem
  /-- What becomes of a problem of a file that is a definition or library. -/
  opened : Files.Path → Yaml.Problem → Fault

variable {files : Files.Entry} {c d : Reporting}

/-! ## Reading with reports -/

namespace Reporting

/-- The text of a file. -/
def textAt (c : Reporting) (files : Files.Entry) (p : Files.Path) : Except Fault String :=
  if p.names.any (fun n => n.toList.contains '\x00') then .error .nullInPath
  else (files.readText p).mapError (c.unreadable p)

/-- What a name stands for in a text in the directory `base`: the value that `value` gives a file
of data, and the text of any other file. -/
def contentOf (c : Reporting) (files : Files.Entry)
    (value : Files.Path → String → Except Yaml.Problem Value) (base : Files.Path) (name : String) :
    Except Yaml.Problem Value := do
  let target := base.join (Text.trimmed name)
  let content ← (c.textAt files target).mapError Yaml.Problem.fault
  if dataSuffixes.contains (Text.lowercased target.suffix) then value target content
  else .ok (.text content)

/-- The value of a text in the directory `base`. Files include each other at most `depth` deep. -/
def valueFrom (c : Reporting) (files : Files.Entry) :
    Nat → Files.Path → String → Except Yaml.Problem Value
  | 0, base, text => Yaml.read (c.contentOf files (fun _ _ => .error (.fault .cyclic)) base) text
  | depth + 1, base, text =>
    Yaml.read
      (c.contentOf files
        (fun target content =>
          (valueFrom c files depth target.parent content).mapError (c.included target))
        base)
      text

/-- The value of the text of the file at `path`. -/
def valueAt (c : Reporting) (files : Files.Entry) (path : Files.Path) (text : String) :
    Except Fault Value :=
  (c.valueFrom files files.count path.parent text).mapError (c.opened path)

end Reporting

/-- The root mapping of the library at `path`, with the texts of files and their values given. -/
def Library.rootFrom (textAt : Files.Path → Except Fault String)
    (valueAt : Files.Path → String → Except Fault Value) (path : Files.Path) :
    Except Fault Mapping := do
  let text ← textAt path
  match ← valueAt path text with
  | .map m => Mapping.plain m
  | _ => .error (.rejected (.noLibraryMapping path))

/-- The root mapping of the library at `path`. -/
def Library.rootBy (c : Reporting) (files : Files.Entry) : Files.Path → Except Fault Mapping :=
  Library.rootFrom (c.textAt files) (c.valueAt files)

/-- The library that a key and the value of a root name, seen from the directory `base`. -/
def Library.readBy (c : Reporting) (files : Files.Entry) (base : Files.Path) (e : Key × Value) :
    Except Fault Library := do
  let path ← e.2.asText
  let root ← Library.rootBy c files (base.join path)
  let name ← e.1.asText
  Library.ofMapping name root

/-- The definition with the given root in the directory `base`. -/
def Api.ofRootBy (c : Reporting) (files : Files.Entry) (base : Files.Path) (root : Mapping) :
    Traced Api := do
  let libraries ← Traced.ofExcept
    ((root.get "uses").entries.mapM (Library.readBy c files base))
  Api.ofMapping root libraries

/-- The root mapping of the definition at `path`, with the texts of files and their values given. -/
def Api.rootFrom (textAt : Files.Path → Except Fault String)
    (valueAt : Files.Path → String → Except Fault Value) (path : Files.Path) :
    Except Fault Mapping := do
  let text ← textAt path
  if !hasHeader text then .error (.rejected (.missingHeader path))
  match ← valueAt path text with
  | .map m => Mapping.plain m
  | _ => .error (.rejected (.noMapping path))

/-- The root mapping of the definition at `path`. -/
def Api.rootBy (c : Reporting) (files : Files.Entry) : Files.Path → Except Fault Mapping :=
  Api.rootFrom (c.textAt files) (c.valueAt files)

/-- The definition at `path`. -/
def Api.loadBy (c : Reporting) (files : Files.Entry) (path : Files.Path) : Traced Api := do
  let root ← Traced.ofExcept (Api.rootBy c files path)
  Api.ofRootBy c files path.parent root

/-! ## Reading as the library does it -/

/-- A malformed text is reported under the path of the definition or library that it is part of. -/
def Reporting.outermost : Reporting where
  unreadable p reason := .rejected (.unreadable p reason)
  included _ problem := problem
  opened p problem := problem.at p

theorem Reporting.textAt_outermost (files : Files.Entry) :
    outermost.textAt files = files.textAt := by
  funext p
  unfold textAt Files.Entry.textAt
  split
  · rfl
  · cases files.readText p <;> rfl

/-- One step of reading as the library does it. -/
theorem valueFrom_succ (files : Files.Entry) (depth : Nat) (base : Files.Path) (text : String) :
    valueFrom files (depth + 1) base text =
      Yaml.read
        (fun name =>
          let target := base.join (Text.trimmed name)
          match files.textAt target with
          | .error f => .error (.fault f)
          | .ok content =>
            if dataSuffixes.contains (Text.lowercased target.suffix) then
              valueFrom files depth target.parent content
            else .ok (.text content))
        text := by
  delta valueFrom
  rfl

theorem Reporting.contentOf_outermost (files : Files.Entry)
    (value : Files.Path → String → Except Yaml.Problem Value) (base : Files.Path) (name : String) :
    outermost.contentOf files value base name =
      match files.textAt (base.join (Text.trimmed name)) with
      | .error f => .error (.fault f)
      | .ok content =>
        if dataSuffixes.contains (Text.lowercased (base.join (Text.trimmed name)).suffix) then
          value (base.join (Text.trimmed name)) content
        else .ok (.text content) := by
  unfold contentOf
  simp only [textAt_outermost]
  cases files.textAt (base.join (Text.trimmed name)) <;> rfl

theorem Reporting.valueFrom_outermost (files : Files.Entry) (depth : Nat) :
    outermost.valueFrom files depth = RamlDocs.valueFrom files depth := by
  induction depth with
  | zero =>
    funext base text
    rw [Reporting.valueFrom, funext (contentOf_outermost files _ base)]
    delta RamlDocs.valueFrom
    rfl
  | succ depth ih =>
    have passed : ∀ (x : Except Yaml.Problem Value) (p : Files.Path),
        x.mapError (outermost.included p) = x := fun x _ => by cases x <;> rfl
    funext base text
    rw [Reporting.valueFrom, RamlDocs.valueFrom_succ, funext (contentOf_outermost files _ base)]
    simp only [ih, passed]

theorem Reporting.valueAt_outermost (files : Files.Entry) :
    outermost.valueAt files = RamlDocs.valueAt files := by
  funext path text
  rw [Reporting.valueAt, RamlDocs.valueAt, Reporting.valueFrom_outermost]
  rfl

theorem Library.rootBy_outermost (files : Files.Entry) :
    Library.rootBy .outermost files = Library.rootAt files := by
  rw [Library.rootBy, Reporting.textAt_outermost, Reporting.valueAt_outermost]
  rfl

theorem Api.rootBy_outermost (files : Files.Entry) :
    Api.rootBy .outermost files = Api.rootAt files := by
  rw [Api.rootBy, Reporting.textAt_outermost, Reporting.valueAt_outermost]
  rfl

theorem Api.loadBy_outermost (files : Files.Entry) (path : Files.Path) :
    Api.loadBy .outermost files path = Api.load files path := by
  have library : Library.readBy .outermost files = Library.read files := by
    unfold Library.readBy Library.read
    rw [Library.rootBy_outermost]
  unfold Api.loadBy Api.load Api.ofRootBy Api.ofRoot Api.librariesOf
  rw [Api.rootBy_outermost, library]

/-! ## Two ways of reporting -/

/-- A file includes another one as data: its text has a scalar that stands for the content of the
other. -/
def Includes (files : Files.Entry) (p q : Files.Path) : Prop :=
  ∃ text n name, files.readText p = .ok text ∧ Yaml.Node.ofText text = .ok n ∧ name ∈ n.fileNames ∧
    q = p.parent.join (Text.trimmed name) ∧
    dataSuffixes.contains (Text.lowercased q.suffix) = true

/-- The files that are opened by themselves where `came` is read from the file at `path`: this file
and, if a root came of it, the libraries that the root uses. -/
inductive Api.Opens (came : Except Fault Mapping) (path : Files.Path) : Files.Path → Prop
  | definition : Opens came path path
  | library {root : Mapping} {e : Key × Value} {s : String} (read : came = .ok root)
      (uses : e ∈ (root.get "uses").entries) (name : e.2.asText = .ok s) :
      Opens came path (path.parent.join s)

/-- The reports of two ways of reporting are related: the problems of the file at a path by `R`, and
the faults in which it ends where it is opened by `S`. -/
structure Reporting.Related (files : Files.Entry) (c d : Reporting)
    (R : Files.Path → Yaml.Problem → Yaml.Problem → Prop)
    (S : Files.Path → Fault → Fault → Prop) : Prop where
  sameProblem : ∀ p x, R p x x
  sameFault : ∀ p f, S p f f
  unreadable : ∀ p reason, files.readText p = .error reason →
    S p (c.unreadable p reason) (d.unreadable p reason)
  unreadableInside : ∀ p q reason, files.readText q = .error reason →
    R p (.fault (c.unreadable q reason)) (.fault (d.unreadable q reason))
  included : ∀ p q x y, Includes files p q → R q x y → R p (c.included q x) (d.included q y)
  opened : ∀ p x y, R p x y → S p (c.opened p x) (d.opened p y)

namespace Reporting

theorem readText_of_textAt {p : Files.Path} {text : String} (h : c.textAt files p = .ok text) :
    files.readText p = .ok text := by
  unfold textAt at h
  split at h
  · cases h
  · cases came : files.readText p with
    | error reason =>
      rw [came] at h
      cases h
    | ok s =>
      rw [came] at h
      cases h
      rfl

theorem alike_textAt {T : Fault → Fault → Prop} {p : Files.Path} (same : ∀ f, T f f)
    (unreadable : ∀ reason, files.readText p = .error reason →
      T (c.unreadable p reason) (d.unreadable p reason)) :
    Alike T (c.textAt files p) (d.textAt files p) := by
  unfold textAt
  split
  · exact .error (same _)
  · cases came : files.readText p with
    | error reason => exact .error (unreadable reason came)
    | ok text => exact .ok text

namespace Related

variable {R : Files.Path → Yaml.Problem → Yaml.Problem → Prop}
  {S : Files.Path → Fault → Fault → Prop}

theorem alike_contentOf (h : Related files c d R S) {p : Files.Path} {text : String}
    {n : Yaml.Node} {name : String} {v w : Files.Path → String → Except Yaml.Problem Value}
    (read : files.readText p = .ok text) (spelled : Yaml.Node.ofText text = .ok n)
    (named : name ∈ n.fileNames)
    (data : ∀ q content, Includes files p q → files.readText q = .ok content →
      Alike (R p) (v q content) (w q content)) :
    Alike (R p) (c.contentOf files v p.parent name) (d.contentOf files w p.parent name) := by
  have texts : Alike (fun f g => R p (.fault f) (.fault g))
      (c.textAt files (p.parent.join (Text.trimmed name)))
      (d.textAt files (p.parent.join (Text.trimmed name))) :=
    alike_textAt (fun _ => h.sameProblem p _) (h.unreadableInside p _)
  refine (texts.mapError fun _ _ related => related).bind fun content came => ?_
  split
  next suffix =>
    exact data _ content ⟨text, n, name, read, spelled, named, rfl, suffix⟩
      (readText_of_textAt (mapError_eq_ok.mp came))
  next => exact .ok _

theorem alike_valueFrom (h : Related files c d R S) (depth : Nat) {p : Files.Path}
    {text : String} (read : files.readText p = .ok text) :
    Alike (R p) (c.valueFrom files depth p.parent text)
      (d.valueFrom files depth p.parent text) := by
  induction depth generalizing p text with
  | zero =>
    refine Yaml.alike_read (h.sameProblem p) fun n spelled name named => ?_
    exact h.alike_contentOf read spelled named fun _ _ _ _ => .error (h.sameProblem p _)
  | succ depth ih =>
    refine Yaml.alike_read (h.sameProblem p) fun n spelled name named => ?_
    refine h.alike_contentOf read spelled named fun q content edge below => ?_
    exact (ih below).mapError fun x y => h.included p q x y edge

theorem alike_valueAt (h : Related files c d R S) {p : Files.Path} {text : String}
    (read : files.readText p = .ok text) :
    Alike (S p) (c.valueAt files p text) (d.valueAt files p text) :=
  (h.alike_valueFrom files.count read).mapError (h.opened p)

theorem alike_libraryRoot (h : Related files c d R S) (path : Files.Path) :
    Alike (S path) (Library.rootBy c files path) (Library.rootBy d files path) := by
  refine (alike_textAt (h.sameFault path) (h.unreadable path)).bind fun text read => ?_
  exact (h.alike_valueAt (readText_of_textAt read)).bind fun _ _ => .refl (h.sameFault path) _

theorem alike_apiRoot (h : Related files c d R S) (path : Files.Path) :
    Alike (S path) (Api.rootBy c files path) (Api.rootBy d files path) := by
  refine (alike_textAt (h.sameFault path) (h.unreadable path)).bind fun text read => ?_
  dsimp only
  split
  · exact .error (h.sameFault path _)
  · exact (h.alike_valueAt (readText_of_textAt read)).bind fun _ _ => .refl (h.sameFault path) _

/-- Two ways of reporting come to the same definition, or to faults of one of the files that are
opened. -/
theorem alike_load (h : Related files c d R S) (path : Files.Path) :
    Alike (fun f g => ∃ p, Api.Opens (Api.rootBy c files path) path p ∧ S p f g)
      (Api.loadBy c files path).outcome (Api.loadBy d files path).outcome := by
  have same : ∀ f, ∃ p, Api.Opens (Api.rootBy c files path) path p ∧ S p f f :=
    fun f => ⟨path, .definition, h.sameFault path f⟩
  unfold Api.loadBy Api.ofRootBy
  simp only [Traced.outcome_bind, Traced.outcome_ofExcept]
  have opens : ∀ {p : Files.Path} {x y : Except Fault Mapping},
      Api.Opens (Api.rootBy c files path) path p → Alike (S p) x y →
        Alike (fun f g => ∃ p, Api.Opens (Api.rootBy c files path) path p ∧ S p f g) x y :=
    fun opened alike => alike.mono fun _ _ related => ⟨_, opened, related⟩
  refine (opens .definition (h.alike_apiRoot path)).bind fun root came => ?_
  refine (Alike.mapM fun e uses => ?_).bind fun libraries _ => .refl same _
  refine (Alike.refl same e.2.asText).bind fun s name => ?_
  have opened : Api.Opens (Api.rootBy c files path) path (path.parent.join s) :=
    .library came uses name
  exact (opens opened (h.alike_libraryRoot _)).bind fun _ _ => .refl same _

end Related

end Reporting

end RamlDocs
