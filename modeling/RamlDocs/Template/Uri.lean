import RamlDocs.Text.Blank

/-!
# Variables of a URI template

A variable is a name between braces. Names are not empty and hold no brace and no slash, so a
variable never spans two segments of a path; an opening brace that is followed by another one
before it is closed opens nothing.
-/

namespace RamlDocs.Uri

/-- The variables of the rest of a template, in order. Inside a brace, `pending` holds the
characters since it (in reverse order). -/
def variableNamesFrom : Option (List Char) → List Char → List (List Char)
  | _, [] => []
  | none, c :: cs => variableNamesFrom (if c == '{' then some [] else none) cs
  | some pending, c :: cs =>
    if c == '{' then variableNamesFrom (some []) cs
    else if c == '/' then variableNamesFrom none cs
    else if c == '}' then
      if pending.isEmpty then variableNamesFrom none cs
      else pending.reverse :: variableNamesFrom none cs
    else variableNamesFrom (some (c :: pending)) cs

/-- The variables of a URI template, in order, each as often as it occurs. -/
def variableNames (uri : String) : List String := (variableNamesFrom none uri.toList).map String.ofList

/-- Characters of variable names. -/
def isNameChar (c : Char) : Bool := c != '{' && c != '}' && c != '/'

/-- Whether a segment is one variable and nothing else. -/
def isVariable : List Char → Bool
  | '{' :: cs => !cs.dropLast.isEmpty && cs.dropLast.all isNameChar && cs.getLast? == some '}'
  | _ => false

/-- The last segment of a path that is neither empty nor a variable; empty if there is none. -/
def pathName (uri : String) : String :=
  let segments := (Text.splitWhere (· == '/') uri.toList).filter
    fun s => !s.isEmpty && !isVariable s
  String.ofList (segments.getLast?.getD [])

end RamlDocs.Uri
