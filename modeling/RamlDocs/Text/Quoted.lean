import RamlDocs.Text.Digit
import RamlDocs.Text.HiddenTable
import RamlDocs.Text.Letter

/-!
# Quoted text

A text between quotes, written so that every character can be seen. The apostrophe is the quote
unless the text has an apostrophe and no double quote.
-/

namespace RamlDocs.Text

/-- Whether a character is shown as it stands. -/
def isVisible (c : Char) : Bool :=
  let n := c.toNat
  if n < 0x80 then 0x20 ≤ n && n < 0x7f else !inRanges hiddenRanges n

/-- The quote that encloses `cs`. -/
def quoteFor (cs : List Char) : Char :=
  if cs.contains '\x27' && !cs.contains '\x22' then '\x22' else '\x27'

/-- One character inside a text enclosed by `quote`. -/
def quotedChar (quote c : Char) : List Char :=
  let n := c.toNat
  if c == quote || c == '\\' then ['\\', c]
  else if c == '\t' then ['\\', 't']
  else if c == '\n' then ['\\', 'n']
  else if c == '\r' then ['\\', 'r']
  else if isVisible c then [c]
  else if n < 0x100 then '\\' :: 'x' :: hexDigits 2 n
  else if n < 0x10000 then '\\' :: 'u' :: hexDigits 4 n
  else '\\' :: 'U' :: hexDigits 8 n

/-- The quoted form of a text. -/
def quote (cs : List Char) : List Char :=
  let q := quoteFor cs
  q :: cs.flatMap (quotedChar q) ++ [q]

/-- The quoted form of the text `s`. -/
def quoted (s : String) : String := String.ofList (quote s.toList)

end RamlDocs.Text
