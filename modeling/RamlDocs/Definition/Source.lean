import RamlDocs.Definition.Api
import RamlDocs.Value.Plain
import RamlDocs.Yaml.Meaning

/-!
# Definitions in files

A definition is read from a file that names the language in its first line. Scalars can stand for
the contents of other files, and libraries are read from the files that the root names. Where a
file cannot be read its own path is reported; a text that does not follow the format is reported
under the path of the definition or library that it is part of.
-/

namespace RamlDocs

/-- The first line of a definition, as words. -/
def header : List (List Char) := ["#%RAML".toList, "1.0".toList]

/-- Whether a text starts with the header, blank lines and the space between words aside. -/
def hasHeader (text : String) : Bool :=
  Text.words (Text.firstLine (Text.trimLeft text.toList)) == header

/-- Endings of files whose content is data; the content of others is text. -/
def dataSuffixes : List String := [".raml", ".yaml", ".yml"]

mutual

/-- The number of entries of a tree of files. -/
def Files.Entry.count : Files.Entry → Nat
  | .file _ => 1
  | .dir children => countChildren children + 1

/-- The number of entries of named trees. -/
def countChildren : List (String × Files.Entry) → Nat
  | [] => 0
  | (_, e) :: es => e.count + countChildren es

end

/-- The value of a text in the directory `base`. Files include each other at most `depth` deep. -/
def valueFrom (files : Files.Entry) : Nat → Files.Path → String → Except Yaml.Problem Value
  | depth, base, text =>
    Yaml.read
      (fun name =>
        let target := base.join (Text.trimmed name)
        match files.textAt target with
        | .error f => .error (.fault f)
        | .ok content =>
          if dataSuffixes.contains (Text.lowercased target.suffix) then
            match depth with
            | 0 => .error (.fault .cyclic)
            | depth + 1 => valueFrom files depth target.parent content
          else .ok (.text content))
      text

/-- The value of the text of the file at `path`. -/
def valueAt (files : Files.Entry) (path : Files.Path) (text : String) : Except Fault Value :=
  (valueFrom files files.count path.parent text).mapError (·.at path)

/-- The root mapping of the library at `path`. -/
def Library.rootAt (files : Files.Entry) (path : Files.Path) : Except Fault Mapping := do
  let text ← files.textAt path
  match ← valueAt files path text with
  | .map m => Mapping.plain m
  | _ => .error (.rejected (.noLibraryMapping path))

/-- The library that a key and the value of a root name, seen from the directory `base`. -/
def Library.read (files : Files.Entry) (base : Files.Path) (e : Key × Value) :
    Except Fault Library := do
  let path ← e.2.asText
  let root ← Library.rootAt files (base.join path)
  let name ← e.1.asText
  Library.ofMapping name root

/-- The libraries that a root in the directory `base` uses. -/
def Api.librariesOf (files : Files.Entry) (base : Files.Path) (root : Mapping) :
    Except Fault (List Library) :=
  (root.get "uses").entries.mapM (Library.read files base)

/-- The definition with the given root in the directory `base`. -/
def Api.ofRoot (files : Files.Entry) (base : Files.Path) (root : Mapping) : Traced Api := do
  let libraries ← Traced.ofExcept (Api.librariesOf files base root)
  Api.ofMapping root libraries

/-- The root mapping of the definition at `path`. -/
def Api.rootAt (files : Files.Entry) (path : Files.Path) : Except Fault Mapping := do
  let text ← files.textAt path
  if !hasHeader text then .error (.rejected (.missingHeader path))
  match ← valueAt files path text with
  | .map m => Mapping.plain m
  | _ => .error (.rejected (.noMapping path))

/-- The definition at `path`. -/
def Api.load (files : Files.Entry) (path : Files.Path) : Traced Api := do
  let root ← Traced.ofExcept (Api.rootAt files path)
  Api.ofRoot files path.parent root

end RamlDocs
