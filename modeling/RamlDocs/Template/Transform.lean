import RamlDocs.Text.Letter

/-!
# Transformations of parameter texts

A placeholder may ask for the singular, the plural, another case, or the joined words of a text.
-/

namespace RamlDocs.Template

/-- Characters between the words that are joined. -/
def isSeparator (c : Char) : Bool := c == '-' || c == '_' || Text.isBlank c

/-- The words of a text, each with its first character in upper case, joined. -/
def camelCase (cs : List Char) : List Char :=
  (Text.splitWhere isSeparator cs).flatMap Text.capitalize

/-- The text without an `s` at its end. -/
def singular (cs : List Char) : List Char :=
  if cs.getLast? == some 's' then cs.dropLast else cs

/-- The text with an `s` at its end. -/
def plural (cs : List Char) : List Char :=
  if cs.getLast? == some 's' then cs else cs ++ ['s']

/-- The transformation of a given name; an unknown name leaves the text as it is. -/
def transform (name : String) (cs : List Char) : List Char :=
  match name with
  | "singularize" => singular cs
  | "pluralize" => plural cs
  | "uppercase" => Text.upper cs
  | "lowercase" => Text.lower cs
  | "uppercamelcase" => camelCase cs
  | "lowercamelcase" => Text.decapitalize (camelCase cs)
  | _ => cs

end RamlDocs.Template
