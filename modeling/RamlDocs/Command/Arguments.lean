import RamlDocs.Command.Usage
import RamlDocs.Number.Numeral
import RamlDocs.Text.Similarity

/-!
# Command lines

Options have names of one letter behind one hyphen or of words behind two. A value follows as the
next argument, behind an equals sign, or right behind the letter; letters can share a hyphen. Two
hyphens by themselves end the options.
-/

namespace RamlDocs.Command

/-- What an option does: it stands for something by itself, or makes something of its value. -/
inductive Taking (α : Type) where
  | flag (a : α)
  | value (f : String → α)

/-- Options by their names. -/
abbrev Options (α : Type) := List (String × Taking α)

namespace Options

variable {α : Type}

/-- What an argument with options stands for, and the option that still waits for its value. -/
abbrev Found (α : Type) := List α × Option (String × (String → α))

/-- Every command explains itself under this name. -/
def helpName : String := "--help"

/-- The options of words that resemble an unknown one. -/
def alike (options : Options α) (name : String) : List String :=
  Text.suggestions name (helpName :: (options.map (·.1)).filter fun s => s.startsWith "--")

/-- Letters behind a hyphen. -/
def letters (options : Options α) : List Char → Except Misuse (Found α)
  | [] => .ok ([], none)
  | c :: cs =>
    let name := String.ofList ['-', c]
    match options.lookup name with
    | none => .error (.noOption name [])
    | some (.flag a) => (letters options cs).map fun (as, waiting) => (a :: as, waiting)
    | some (.value f) =>
      if cs.isEmpty then .ok ([], some (name, f)) else .ok ([f (String.ofList cs)], none)

/-- A word behind two hyphens, with a value if an equals sign follows it. -/
def word (options : Options α) (argument : List Char) : Except Misuse (Found α) :=
  let name := String.ofList (argument.takeWhile (· != '='))
  match options.lookup name, argument.dropWhile (· != '=') with
  | none, _ => .error (.noOption name (options.alike name))
  | some (.flag a), [] => .ok ([a], none)
  | some (.flag _), _ => .error (.valueNotTaken name)
  | some (.value f), [] => .ok ([], some (name, f))
  | some (.value f), _ :: value => .ok ([f (String.ofList value)], none)

/-- An argument that starts with a hyphen. -/
def argument (options : Options α) (cs : List Char) : Except Misuse (Found α) :=
  match cs with
  | '-' :: '-' :: _ => options.word cs
  | _ => options.letters (cs.drop 1)

/-- What the options of a command line stand for, in order, and the other arguments. Where options
may not be mixed with other arguments, the first of those ends them. -/
def read (options : Options α) (mixed : Bool) (waiting : Option (String × (String → α))) :
    List String → Except Misuse (List α × List String)
  | [] =>
    match waiting with
    | some (name, _) => .error (.valueMissing name)
    | none => .ok ([], [])
  | a :: as =>
    match waiting with
    | some (_, f) => (read options mixed none as).map fun (found, rest) => (f a :: found, rest)
    | none =>
      if a == "--" then .ok ([], as)
      else if a.length != 1 && a.toList.head? == some '-' then do
        let (found, waiting) ← options.argument a.toList
        let (more, rest) ← read options mixed waiting as
        .ok (found ++ more, rest)
      else if mixed then (read options mixed none as).map fun (found, rest) => (found, a :: rest)
      else .ok ([], a :: as)

end Options

/-! ## The commands -/

/-- Options of the view command. -/
inductive BuildOption where
  | output (path : String)
  | markdown (b : Bool)
  | indent (text : String)

/-- Where an option says that the view is saved. -/
def BuildOption.output? : BuildOption → Option String
  | .output path => some path
  | _ => none

/-- Whether an option says that descriptions are rendered. -/
def BuildOption.markdown? : BuildOption → Option Bool
  | .markdown b => some b
  | _ => none

/-- How far an option says that the view is set in. -/
def BuildOption.indent? : BuildOption → Option String
  | .indent text => some text
  | _ => none

/-- The command to write a view, and the command to list endpoints. -/
inductive Invocation where
  | build (path : String) (output : Option String) (markdown : Option Bool) (indent : Int)
  | endpoints (path : String)
  deriving DecidableEq, Repr

/-- Options before the name of a command. -/
def commonOptions : Options Unit := [("-v", .flag ()), ("--verbose", .flag ())]

/-- Options of the view command. -/
def buildOptions : Options BuildOption :=
  [("-o", .value .output), ("--output", .value .output), ("--markdown", .flag (.markdown true)),
    ("--no-markdown", .flag (.markdown false)), ("--indent", .value .indent)]

/-- The one path among the arguments of a command. `check` may refuse it before further arguments
are looked at. -/
def onePath (check : String → Except Misuse Unit) : List String → Except Misuse String
  | [] => .error .pathMissing
  | path :: others => do
    check path
    if others.isEmpty then .ok path else .error (.tooMany others)

/-- The integer of an option. -/
def integerOf (option text : String) : Except Misuse Int :=
  match Numeral.readInt 10 text with
  | .ok n => .ok n
  | .error _ => .error (.notInteger option text)

/-- How far a view is set in if nothing is said. -/
def defaultIndent : Int := 2

/-- What the last option says that says anything of a kind. -/
def lastSaid {α : Type} (say : BuildOption → Option α) (found : List BuildOption) : Option α :=
  found.reverse.findSome? say

/-- How far the view is set in. -/
def indentSaid (found : List BuildOption) : Except Misuse Int :=
  match lastSaid BuildOption.indent? found with
  | some text => integerOf "--indent" text
  | none => .ok defaultIndent

/-- The view command. Of an option given twice the last one counts. -/
def readBuild (check : String → Except Misuse Unit) (arguments : List String) :
    Except Misuse Invocation := do
  let (found, rest) ← buildOptions.read true none arguments
  let indent ← indentSaid found
  let path ← onePath check rest
  let output := lastSaid BuildOption.output? found
  .ok (.build path output (lastSaid BuildOption.markdown? found) indent)

/-- The command to list endpoints, which has no options. -/
def readEndpoints (check : String → Except Misuse Unit) (arguments : List String) :
    Except Misuse Invocation := do
  let (_, rest) ← Options.read ([] : Options Unit) true none arguments
  let path ← onePath check rest
  .ok (.endpoints path)

/-- How often a command line asks for more notes, and the command with its arguments. -/
def readCommon (arguments : List String) : Except Misuse (Nat × List String) :=
  (commonOptions.read false none arguments).map fun (found, rest) => (found.length, rest)

/-- The names of all commands. -/
def commandNames : List String := ["build", "endpoints"]

/-- The command that a name and arguments call for. A name that looks like an option is read as
one before it is refused. -/
def readCommand (check : String → Except Misuse Unit) :
    List String → Except Misuse Invocation
  | [] => .error .missingCommand
  | name :: arguments =>
    if name == "build" then readBuild check arguments
    else if name == "endpoints" then readEndpoints check arguments
    else do
      let _ ← commonOptions.read false none (name :: arguments)
      .error (.noCommand name (Text.suggestions name commandNames))

end RamlDocs.Command
