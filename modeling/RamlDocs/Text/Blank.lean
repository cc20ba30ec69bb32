/-!
# Blanks, words and lines

The characters that count as blank, what is left of a text without the blanks at its ends, the
words between blanks, and the lines of a text. All functions work on lists of characters; the
`String` versions wrap them.
-/

namespace RamlDocs.Text

/-- Blank characters: the space, the control characters that separate lines, fields or records,
and the separators of every script. -/
def isBlank (c : Char) : Bool :=
  let n := c.toNat
  (9 ≤ n && n ≤ 13) || (28 ≤ n && n ≤ 32) || n == 0x85 || n == 0xa0 || n == 0x1680 ||
    (0x2000 ≤ n && n ≤ 0x200a) || n == 0x2028 || n == 0x2029 || n == 0x202f || n == 0x205f ||
    n == 0x3000

/-- Characters that end a line. -/
def isLineEnd (c : Char) : Bool :=
  let n := c.toNat
  (10 ≤ n && n ≤ 13) || (28 ≤ n && n ≤ 30) || n == 0x85 || n == 0x2028 || n == 0x2029

/-- `cs` without the characters at its end that satisfy `p`. -/
def dropRightWhile (p : Char → Bool) (cs : List Char) : List Char :=
  (cs.reverse.dropWhile p).reverse

/-- `cs` without the blanks at its start. -/
def trimLeft (cs : List Char) : List Char := cs.dropWhile isBlank

/-- `cs` without the blanks at its end. -/
def trimRight (cs : List Char) : List Char := dropRightWhile isBlank cs

/-- `cs` without the blanks at both ends. -/
def trim (cs : List Char) : List Char := trimRight (trimLeft cs)

/-- The text `s` without the blanks at both ends. -/
def trimmed (s : String) : String := String.ofList (trim s.toList)

/-- Whether `s` has no character but blanks. -/
def isAllBlank (s : String) : Bool := s.toList.all isBlank

/-- The pieces of `cs` between the characters that satisfy `p`, empty ones included. There is
always at least one piece. -/
def splitWhere (p : Char → Bool) : List Char → List (List Char)
  | [] => [[]]
  | c :: cs =>
    if p c then [] :: splitWhere p cs
    else
      match splitWhere p cs with
      | [] => [[c]]
      | piece :: rest => (c :: piece) :: rest

/-- The pieces of `s` between the occurrences of the character `sep`. -/
def splitAt (sep : Char) (s : String) : List String :=
  (splitWhere (· == sep) s.toList).map String.ofList

/-- The non-empty runs of characters that are not blank. -/
def words (cs : List Char) : List (List Char) :=
  (splitWhere isBlank cs).filter (· != [])

/-- The part of `cs` before its first line end. -/
def firstLine (cs : List Char) : List Char := cs.takeWhile (fun c => !isLineEnd c)

/-- Whether `needle` starts `hay`. -/
def startsWith (needle : List Char) (hay : List Char) : Bool := needle.isPrefixOf hay

/-- What follows `needle` at the start of `hay`. -/
def stripStart? : List Char → List Char → Option (List Char)
  | [], hay => some hay
  | _ :: _, [] => none
  | n :: ns, h :: hs => if n = h then stripStart? ns hs else none

/-- Whether `needle` occurs somewhere in `hay`. -/
def contains (needle : List Char) : List Char → Bool
  | [] => needle.isEmpty
  | c :: cs => needle.isPrefixOf (c :: cs) || contains needle cs

/-- `replaceFrom old new skip cs` replaces the occurrences of a non-empty `old` in `cs` from left
to right, after dropping the `skip` characters that belong to the occurrence just replaced. -/
def replaceFrom (old new : List Char) : Nat → List Char → List Char
  | _, [] => []
  | skip + 1, _ :: cs => replaceFrom old new skip cs
  | 0, c :: cs =>
    if old.isPrefixOf (c :: cs) then new ++ replaceFrom old new (old.length - 1) cs
    else c :: replaceFrom old new 0 cs

/-- Every occurrence of `old` in `cs`, from left to right and without overlap, replaced by `new`.
The empty text occurs before every character and at the end. -/
def replaceAll (old new cs : List Char) : List Char :=
  if old.isEmpty then new ++ cs.flatMap (fun c => c :: new)
  else replaceFrom old new 0 cs

/-- The text `s` with every occurrence of `old` replaced by `new`. -/
def replaced (s old new : String) : String :=
  String.ofList (replaceAll old.toList new.toList s.toList)

/-- The text `s` without the first occurrence of the character `c`. -/
def withoutFirst (c : Char) (s : String) : String := String.ofList (s.toList.erase c)

/-- `pieces` with `sep` between each two neighbours. -/
def joined (sep : String) (pieces : List String) : String := sep.intercalate pieces

end RamlDocs.Text
