import RamlDocs.Text.Letter

/-!
# Placeholders

A template text is made of characters and placeholders: a name between double angle brackets,
optionally with a bar and the name of a transformation. `Template.parse` splits a text into these
pieces, and `Piece.source` gives back what stood there.
-/

namespace RamlDocs.Template

/-- A placeholder: the name of a parameter, the transformation asked for, and how it is written. -/
structure Placeholder where
  name : List Char
  transform : Option (List Char)
  source : List Char
  deriving DecidableEq, Repr

/-- A piece of a template text. -/
inductive Piece where
  | char (c : Char)
  | hole (p : Placeholder)
  deriving DecidableEq, Repr

/-- What stands for a piece in the template. -/
def Piece.source : Piece → List Char
  | .char c => [c]
  | .hole p => p.source

/-- Characters that may start a parameter name. -/
def isNameStart (c : Char) : Bool := (c.toNat < 0x80 && c.isAlpha) || c == '_'

/-- Characters of parameter names. -/
def isNameChar (c : Char) : Bool := Text.isWord c || c == '-'

/-- The text after closing brackets. -/
def close? : List Char → Option (List Char)
  | '>' :: '>' :: rest => some rest
  | _ => none

/-- A transformation after its bar and exclamation mark, and the text after the placeholder. -/
def transform? (cs : List Char) : Option (List Char × List Char) :=
  match Text.trimLeft cs with
  | '!' :: rest =>
    let (word, rest) := rest.span Text.isWord
    if word.isEmpty then none else (close? (Text.trimLeft rest)).map fun rest => (word, rest)
  | _ => none

/-- The name and transformation of the placeholder at the start of the text, and the text after
it. -/
def holeParts? : List Char → Option (List Char × Option (List Char) × List Char)
  | '<' :: '<' :: rest =>
    match Text.trimLeft rest with
    | [] => none
    | c :: cs =>
      if isNameStart c then
        let (more, rest) := cs.span isNameChar
        match Text.trimLeft rest with
        | '|' :: rest => (transform? rest).map fun t => (c :: more, some t.1, t.2)
        | rest => (close? rest).map fun rest => (c :: more, none, rest)
      else none
  | _ => none

/-- The placeholder at the start of the text. -/
def hole? (cs : List Char) : Option Placeholder :=
  (holeParts? cs).map fun (name, transform, rest) =>
    ⟨name, transform, cs.take (cs.length - rest.length)⟩

/-- The pieces of a text after dropping the `skip` characters that belong to the placeholder just
found. The first placeholder from the left is taken. -/
def piecesFrom : Nat → List Char → List Piece
  | _, [] => []
  | skip + 1, _ :: cs => piecesFrom skip cs
  | 0, c :: cs =>
    match hole? (c :: cs) with
    | some p => .hole p :: piecesFrom (p.source.length - 1) cs
    | none => .char c :: piecesFrom 0 cs

/-- The pieces of a template text. -/
def parse (cs : List Char) : List Piece := piecesFrom 0 cs

/-- The placeholder that a text consists of, blanks around it aside. -/
def whole? (cs : List Char) : Option Placeholder :=
  match parse (Text.trim cs) with
  | [.hole p] => some p
  | _ => none

end RamlDocs.Template
