import RamlDocs.Command.Arguments
import RamlDocs.Command.Environment
import RamlDocs.Command.NoteLine
import RamlDocs.Definition.Source
import RamlDocs.Files.Write
import RamlDocs.Json.Writer
import RamlDocs.Text.Style
import RamlDocs.View.Record

/-!
# Running a command

`Command.run` says what a command line comes to on given files and environment variables: what is
printed, what is saved, and how the command ends. A definition that is rejected ends it with a
message; any other fault goes out as it is. Nothing is saved before the view is complete. What is
printed does not go to a terminal and is printed without styles.

How a view becomes text is up to the process in part: in which order it lists the members of a set,
how deep it lets values nest, and what else it refuses, as it does a text with half of a surrogate
pair, for which a `String` has only the replacement character. `Command.runWith` takes a `Writer` for
this; `Command.run` writes sets as they were read and refuses nothing but bytes that encode no text
and an indentation out of bounds.
-/

namespace RamlDocs.Command

/-- How a command ends. -/
inductive Ending where
  | done
  | refused (m : Misuse)
  | rejected (r : Rejection)
  | failed (f : Fault)
  deriving DecidableEq, Repr

/-- What a command comes to: its ending, what it prints, the notes on the way, how often it was
asked to say more, what it saves, and the files afterwards. -/
structure Outcome where
  ending : Ending
  output : String
  notes : List Note
  verbosity : Nat
  saved : Option (Files.Path × String)
  files : Files.Entry

/-- The exit code of an ending. -/
def Ending.code : Ending → Nat
  | .done => 0
  | .refused _ => 2
  | .rejected _ => 1
  | .failed _ => 1

/-- What is said about a rejected definition. -/
def rejectedMessage : String := "provided file is not a correct RAML file!"

/-- The messages of a command: the notes that are shown, and what is said at its end. -/
def Outcome.messages (o : Outcome) : List String :=
  match o.ending with
  | .refused m => ["Error: " ++ Text.unstyled m.message]
  | .rejected _ => shownLines o.verbosity o.notes ++ [rejectedMessage]
  | .done => shownLines o.verbosity o.notes
  | .failed _ => shownLines o.verbosity o.notes

/-! ## Paths -/

/-- Whether a path can only be that of a directory by the way it is written. -/
def namesDirectory (path : String) : Bool :=
  match (Text.splitAt '/' path).getLast? with
  | some last => last == "" || last == "."
  | none => true

/-- A path given as an argument has to be that of a file. -/
def checkPath (files : Files.Entry) (path : String) : Except Misuse Unit :=
  match files.locate (Files.Path.parse path) with
  | .error _ => .error (.noFile path)
  | .ok e =>
    if path == "" then .error (.noFile path)
    else if e.children?.isSome then .error (.isDirectory path)
    else if namesDirectory path then .error (.noFile path)
    else .ok ()

/-! ## Work -/

/-- The view of the definition at a path. A rejection is noted. -/
def documentAt (files : Files.Entry) (path : Files.Path) (settings : Settings) :
    Logged (Except Fault Document) := do
  let outcome ← (Api.load files path >>= fun api => api.document settings).run
  match outcome with
  | .error (.rejected r) => do
    Logged.note (.loadFailed path.display r.message)
    pure outcome
  | _ => pure outcome

/-- The list of endpoints of a view. -/
def endpointList (d : Document) : List String :=
  let lines := d.resources.flatMap fun r =>
    (r.name ++ " (" ++ r.uri ++ ")") ::
      r.endpoints.map fun e => "  " ++ Text.uppercased e.method ++ " " ++ e.uri
  let count := (d.resources.flatMap fun r => r.endpoints).length
  lines ++ ["Found " ++ toString count ++ " endpoints."]

/-- How many spaces a view can be set in by. -/
def indentLimit : Nat := Nat.pow 2 64

/-- How a process writes a view, set in by a number of spaces a level: as a text, or not at all. -/
abbrev Writer := Document → Int → Except Fault String

/-- A view as text, set in by `indent` spaces a level, with the members of sets in the given
order. -/
def payload (order : Json.SetOrder) : Writer := fun d indent =>
  if indent < 0 then .error .negativeIndent
  else if indentLimit ≤ indent.toNat then .error .hugeIndent
  else
    match Json.indented order indent.toNat 0 d.toValue with
    | .ok text => .ok text
    | .error (bad, offset) => .error (.notUtf8 bad offset)

/-- A line of output. -/
def outputLine (s : String) : String := Text.unstyled s ++ "\n"

/-- The ending that a fault brings. -/
def Ending.ofFault : Fault → Ending
  | .rejected r => .rejected r
  | f => .failed f

/-- A text that is printed. -/
def Outcome.ofPrinting (files : Files.Entry) (verbosity : Nat) (notes : List Note)
    (output : String) : Outcome :=
  ⟨.done, output, notes, verbosity, none, files⟩

/-- A text that is saved. What stops it may come after directories have been made. -/
def Outcome.ofSaving (files : Files.Entry) (verbosity : Nat) (notes : List Note)
    (target : Files.Path) (text : String) : Outcome :=
  match files.save target text with
  | (after, none) =>
    ⟨.done, outputLine ("View model saved to " ++ target.display), notes, verbosity,
      some (target, text), after⟩
  | (after, some (r, p)) => ⟨.failed (.unsaved r p), "", notes, verbosity, none, after⟩

/-- What a command comes to that makes a text of the view and then hands it on. -/
def onDocument (files : Files.Entry) (verbosity : Nat) (settings : Settings) (path : String)
    (make : Document → Except Fault String) (handOn : List Note → String → Outcome) : Outcome :=
  let found := documentAt files (Files.Path.parse path) settings
  match found.value >>= make with
  | .ok text => handOn found.notes text
  | .error f => ⟨.ofFault f, "", found.notes, verbosity, none, files⟩

/-- What a command comes to. -/
def perform (write : Writer) (files : Files.Entry) (verbosity : Nat) (settings : Settings) :
    Invocation → Outcome
  | .endpoints path =>
    onDocument files verbosity settings path
      (fun d => .ok (String.join ((endpointList d).map outputLine)))
      (Outcome.ofPrinting files verbosity)
  | .build path output markdown indent =>
    let settings := { settings with renderMarkdown := markdown.getD settings.renderMarkdown }
    onDocument files verbosity settings path (fun d => write d indent) fun notes text =>
      match output with
      | none => Outcome.ofPrinting files verbosity notes (outputLine text)
      | some output => Outcome.ofSaving files verbosity notes (Files.Path.parse output) text

/-- The command of a command line, and how often it asks for more notes. -/
def asked (files : Files.Entry) (arguments : List String) : Except Misuse (Nat × Invocation) := do
  let (verbosity, rest) ← readCommon arguments
  let invocation ← readCommand (checkPath files) rest
  .ok (verbosity, invocation)

/-- The command of a command line with its settings, and how often it asks for more notes. -/
def read (files : Files.Entry) (environment : List (String × String)) (arguments : List String) :
    Except Misuse (Nat × Invocation × Settings) := do
  let (verbosity, invocation) ← asked files arguments
  match Settings.ofEnvironment environment with
  | .ok settings => .ok (verbosity, invocation, settings)
  | .error name => .error (.badSetting name)

/-- What a command line comes to in a process that writes views with `write`. -/
def runWith (write : Writer) (files : Files.Entry) (environment : List (String × String))
    (arguments : List String) : Outcome :=
  match read files environment arguments with
  | .ok (verbosity, invocation, settings) => perform write files verbosity settings invocation
  | .error m => ⟨.refused m, "", [], 0, none, files⟩

/-- What a command line comes to. -/
def run (files : Files.Entry) (environment : List (String × String)) (arguments : List String) :
    Outcome :=
  runWith (payload .asRead) files environment arguments

end RamlDocs.Command
