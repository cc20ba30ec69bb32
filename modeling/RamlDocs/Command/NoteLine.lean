import RamlDocs.Logged

/-!
# Notes as lines

A note is shown on a line that says how much it matters, which part of the program makes it, and
what it is about. How much is shown depends on how talkative a command is asked to be.
-/

namespace RamlDocs

/-- The word for a level. -/
def Level.word : Level → String
  | .debug => "DEBUG"
  | .info => "INFO"
  | .warning => "WARNING"

/-- Whether notes of a level are shown when a command is asked `verbosity` times to say more. -/
def Level.isShown (verbosity : Nat) : Level → Bool
  | .debug => 2 ≤ verbosity
  | .info => 1 ≤ verbosity
  | .warning => true

namespace Note

/-- How much a note matters. -/
def level : Note → Level
  | .unknownTrait .. => .debug
  | .unknownResourceType .. => .debug
  | .viewing _ => .debug
  | .endpoint .. => .info
  | .unresolvedType _ => .debug
  | .inheritanceCycle _ => .warning
  | .malformedSchema _ => .warning
  | .schemaNotJson _ => .warning
  | .nameTaken .. => .debug
  | .loadFailed .. => .debug

/-- The part of the program that makes a note. -/
def origin : Note → String
  | .unknownTrait .. => "ramlview.raml.loader"
  | .unknownResourceType .. => "ramlview.raml.loader"
  | .viewing _ => "ramlview.builder.api"
  | .endpoint .. => "ramlview.builder.endpoints"
  | .unresolvedType _ => "ramlview.builder.schema"
  | .inheritanceCycle _ => "ramlview.builder.schema"
  | .malformedSchema _ => "ramlview.builder.schema"
  | .schemaNotJson _ => "ramlview.builder.types"
  | .nameTaken .. => "ramlview.builder.resources"
  | .loadFailed .. => "ramlview.cli"

/-- What a note says. -/
def message : Note → String
  | .unknownTrait name method path =>
    "Unknown trait " ++ Text.quoted name ++ " on " ++ method ++ " " ++ path
  | .unknownResourceType name path =>
    "Unknown resource type " ++ Text.quoted name ++ " on " ++ path
  | .viewing title => "Building view model for " ++ Text.quoted title
  | .endpoint uri method => "URI " ++ uri ++ " " ++ method
  | .unresolvedType reference => "Type reference " ++ Text.quoted reference ++ " does not resolve"
  | .inheritanceCycle key => "Type inheritance cycle through " ++ Text.quoted key ++ ", stopped"
  | .malformedSchema reason => "Ignoring malformed JSON schema: " ++ reason
  | .schemaNotJson name => "Schema " ++ Text.quoted name ++ " is not valid JSON, skipped"
  | .nameTaken uri name =>
    "Skipping " ++ uri ++ ": resource name " ++ Text.quoted name ++ " already used"
  | .loadFailed path reason => "Failed to load " ++ path ++ ": " ++ reason

/-- The line of a note. -/
def line (n : Note) : String := n.level.word ++ " " ++ n.origin ++ ": " ++ n.message

end Note

/-- The lines of the notes that are shown. -/
def shownLines (verbosity : Nat) (notes : List Note) : List String :=
  (notes.filter fun n => n.level.isShown verbosity).map Note.line

end RamlDocs
