/-!
# Text without styles

A sequence of characters that sets a style on a terminal is an escape, a bracket, parameters and a
letter. Where a text goes to something else than a terminal such sequences are left out of it.
-/

namespace RamlDocs.Text

/-- The character that a style starts with. -/
def styleStart : Char := '\x1b'

/-- Whether `c` goes on with the start of a style, which is given last character first. -/
def continuesStyle (start : List Char) (c : Char) : Bool :=
  match start with
  | [] => false
  | [_] => c == '['
  | _ => c.isDigit || c == ';' || c == '?'

/-- A text without styles, read behind the start of one; with an empty start, anywhere. -/
def unstyledFrom (start : List Char) : List Char → List Char
  | [] => start.reverse
  | c :: cs =>
    if continuesStyle start c then unstyledFrom (c :: start) cs
    else if 2 ≤ start.length && c.isAlpha then unstyledFrom [] cs
    else if c == styleStart then start.reverse ++ unstyledFrom [c] cs
    else start.reverse ++ c :: unstyledFrom [] cs

/-- A text without styles. -/
def unstyled (s : String) : String := String.ofList (unstyledFrom [] s.toList)

end RamlDocs.Text
