import RamlDocs.Calendar
import RamlDocs.Files.Tree
import RamlDocs.Json.Obstacle
import RamlDocs.Number.Numeral
import RamlDocs.Template.BaseUri
import RamlDocs.Text.Utf8

/-!
# Faults

Why no view comes out. A `Rejection` says that the definition cannot be read or written as a
document; the command line reports it as such. All other faults are about one value that has no
sensible reading, and end the work where they arise.
-/

namespace RamlDocs

/-- Why a definition is rejected. -/
inductive Rejection where
  /-- A file cannot be read as text. -/
  | unreadable (path : Files.Path) (reason : Files.ReadFault)
  /-- The text of a file does not follow the file format. -/
  | malformed (path : Files.Path)
  /-- The first line does not name the language and its version. -/
  | missingHeader (path : Files.Path)
  /-- The root of a definition is no mapping. -/
  | noMapping (path : Files.Path)
  /-- The root of a library is no mapping. -/
  | noLibraryMapping (path : Files.Path)
  /-- A definition has no root to show. -/
  | noRoot
  /-- A part of the root has no JSON form. -/
  | notSerialisable (o : Json.Obstacle)
  deriving DecidableEq, Repr

/-- The message of a rejection. -/
def Rejection.message : Rejection → String
  | .unreadable p r => p.display ++ ": cannot read file: " ++ r.message p
  | .malformed p => p.display ++ ": invalid YAML"
  | .missingHeader p => p.display ++ ": missing '#%RAML 1.0' header"
  | .noMapping p => p.display ++ ": RAML document is not a mapping"
  | .noLibraryMapping p => p.display ++ ": RAML library is not a mapping"
  | .noRoot => "API definition has no JSON representation"
  | .notSerialisable o => "API definition is not serialisable: " ++ o.message

/-- Why the work on a definition ends. -/
inductive Fault where
  | rejected (r : Rejection)
  /-- A length is infinite. -/
  | infiniteLength
  /-- A placeholder puts a container into key position. -/
  | containerKey (kind : String)
  /-- A placeholder puts a scalar that is no text where a facet of an example is named. -/
  | scalarFacet (kind : String)
  /-- A date or time does not exist. -/
  | calendar (f : Calendar.Fault)
  /-- A value marked as a date is none. -/
  | noDate
  /-- A value marked as a date is a mapping. -/
  | dateInMapping
  /-- A value marked as an integer is none. -/
  | noInteger (base : Nat) (shown : String) (f : Numeral.Fault)
  /-- A value marked as a number is none. -/
  | noNumber (shown : String)
  /-- A value marked as a number is empty. -/
  | emptyNumber
  /-- A value marked as a boolean is none. -/
  | noBoolean (shown : String)
  /-- An integer has too many digits to be written where a text is needed. -/
  | longInteger
  /-- A part of an example has no JSON form. -/
  | noJson (o : Json.Obstacle)
  /-- A number does not fit the floating point numbers. -/
  | numberTooLarge
  /-- An escape names no character. -/
  | noCharacter
  /-- The number in an escape is out of all bounds. -/
  | characterTooLarge
  /-- The base URI cannot be read. -/
  | baseUri (f : BaseUri.Fault)
  /-- A path holds a null character. -/
  | nullInPath
  /-- A view cannot be saved. -/
  | unsaved (r : Files.Refusal) (path : Files.Path)
  /-- A view cannot be set in by a negative number of spaces. -/
  | negativeIndent
  /-- A view cannot be set in by so many spaces. -/
  | hugeIndent
  /-- Bytes of a view encode no text. -/
  | notUtf8 (bad : Utf8.Bad) (offset : Nat)
  /-- Resources nest deeper than the expansion goes. -/
  | tooDeep
  /-- A value contains itself. -/
  | cyclic
  deriving DecidableEq, Repr

/-- The message of a fault. -/
def Fault.message : Fault → String
  | .rejected r => r.message
  | .infiniteLength => "cannot convert float infinity to integer"
  | .containerKey kind => "unhashable type: '" ++ kind ++ "'"
  | .scalarFacet kind => "'" ++ kind ++ "' object has no attribute 'startswith'"
  | .calendar f => f.message
  | .noDate => "'NoneType' object has no attribute 'groupdict'"
  | .dateInMapping => "expected string or bytes-like object, got 'list'"
  | .noInteger base shown f => f.message base shown
  | .noNumber shown => "could not convert string to float: " ++ shown
  | .emptyNumber => "string index out of range"
  | .noBoolean shown => shown
  | .longInteger => Json.Obstacle.longInteger.message
  | .noJson o => o.message
  | .numberTooLarge => "int too large to convert to float"
  | .noCharacter => "chr() arg not in range(0x110000)"
  | .characterTooLarge => "Python int too large to convert to C int"
  | .baseUri f => f.message
  | .nullInPath => "embedded null byte"
  | .unsaved r path => r.message path
  | .negativeIndent => "can't convert negative int to unsigned"
  | .hugeIndent => "int too big to convert"
  | .notUtf8 bad offset =>
    let what :=
      match bad.reason with
      | .endOfData => "incomplete utf-8 byte sequence"
      | _ => "invalid utf-8 sequence of " ++ toString bad.count ++ " bytes"
    "Error serializing to JSON: " ++ what ++ " from index " ++ toString offset
  | .tooDeep => "maximum recursion depth exceeded"
  | .cyclic => "maximum recursion depth exceeded"

/-- The text of a file, or the rejection of its path. -/
def Files.Entry.textAt (root : Files.Entry) (p : Files.Path) : Except Fault String :=
  if p.names.any (fun n => n.toList.contains '\x00') then .error .nullInPath
  else
    match root.readText p with
    | .ok s => .ok s
    | .error reason => .error (.rejected (.unreadable p reason))

end RamlDocs
