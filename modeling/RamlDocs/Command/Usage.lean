import RamlDocs.Text.Quoted
import RamlDocs.Text.Blank

/-!
# Misuse of the command line

Why a command line is refused before any work begins.
-/

namespace RamlDocs.Command

/-- Why a command line is refused. A name that is unknown comes with the known ones that it
resembles. -/
inductive Misuse where
  | missingCommand
  | noCommand (name : String) (alike : List String)
  | noOption (name : String) (alike : List String)
  | valueMissing (option : String)
  | valueNotTaken (option : String)
  | notInteger (option value : String)
  | pathMissing
  | noFile (path : String)
  | isDirectory (path : String)
  | tooMany (arguments : List String)
  | badSetting (name : String)
  deriving DecidableEq, Repr

/-- The name of the argument that every command takes. -/
def pathArgument : String := "'RAML_PATH'"

/-- What may have been meant by an unknown name of the given kind. -/
def hint (kind : String) (alike : List String) : String :=
  match alike.map Text.quoted with
  | [] => ""
  | [name] => " Did you mean " ++ name ++ "?"
  | names => " (Possible " ++ kind ++ ": " ++ Text.joined ", " names ++ ")"

/-- The message for a refused command line. -/
def Misuse.message : Misuse → String
  | .missingCommand => "Missing command."
  | .noCommand name alike =>
    "No such command " ++ Text.quoted name ++ "." ++ hint "commands" alike
  | .noOption name alike => "No such option " ++ Text.quoted name ++ "." ++ hint "options" alike
  | .valueMissing option => "Option " ++ Text.quoted option ++ " requires an argument."
  | .valueNotTaken option => "Option " ++ Text.quoted option ++ " does not take a value."
  | .notInteger option value =>
    "Invalid value for " ++ Text.quoted option ++ ": " ++ Text.quoted value ++
      " is not a valid integer."
  | .pathMissing => "Missing argument " ++ pathArgument ++ "."
  | .noFile path =>
    "Invalid value for " ++ pathArgument ++ ": File " ++ Text.quoted path ++ " does not exist."
  | .isDirectory path =>
    "Invalid value for " ++ pathArgument ++ ": File " ++ Text.quoted path ++ " is a directory."
  | .tooMany arguments =>
    "Got unexpected extra argument" ++ (if arguments.length == 1 then "" else "s") ++ " (" ++
      Text.joined " " arguments ++ ")"
  | .badSetting name => "invalid RAMLVIEW_* environment setting: " ++ name

end RamlDocs.Command
