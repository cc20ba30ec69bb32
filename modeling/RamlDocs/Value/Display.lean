import RamlDocs.Number.Layout
import RamlDocs.Number.Numeral
import RamlDocs.Text.Quoted
import RamlDocs.Value.Basic

/-!
# Values as text

`Value.display` is the text of a value where a definition needs a text and finds something else.
A text stands for itself; inside a container texts are quoted. A value that holds an integer with
too many digits is not written at all (`Value.isWritable`).
-/

namespace RamlDocs

/-- One byte between quotes. -/
def quotedByte (quote : Char) (n : Nat) : List Char :=
  if n < 0x80 then Text.quotedChar quote (Char.ofNat n) else '\\' :: 'x' :: Text.hexDigits 2 n

/-- The quoted form of bytes. -/
def quotedBytes (bs : List Nat) : String :=
  let quote := Text.quoteFor (bs.map Char.ofNat)
  String.ofList ('b' :: quote :: bs.flatMap (quotedByte quote) ++ [quote])

/-- The quoted text of a key. -/
def Key.quoted : Key → String
  | .null => "None"
  | .bool b => if b then "True" else "False"
  | .int n => toString n
  | .float x => x.text .plain
  | .text s => Text.quoted s
  | .bytes bs => quotedBytes bs
  | .moment t => t.quoted

/-- The text of a key. -/
def Key.display : Key → String
  | .text s => s
  | .moment t => t.name
  | k => k.quoted

/-- Whether a key is no integer that is too long to be written. -/
def Key.isWritable : Key → Bool
  | .int n => Numeral.isShort n
  | _ => true

mutual

/-- The quoted text of a value. -/
def Value.quoted : Value → String
  | .null => "None"
  | .bool b => if b then "True" else "False"
  | .int n => toString n
  | .float x => x.text .plain
  | .text s => Text.quoted s
  | .bytes bs => quotedBytes bs
  | .moment t => t.quoted
  | .list vs => "[" ++ Text.joined ", " (quotedItems vs) ++ "]"
  | .tuple [v] => "(" ++ v.quoted ++ ",)"
  | .tuple vs => "(" ++ Text.joined ", " (quotedItems vs) ++ ")"
  | .set [] => "set()"
  | .set ks => "\x7b" ++ Text.joined ", " (ks.map Key.quoted) ++ "\x7d"
  | .map m => "\x7b" ++ Text.joined ", " (quotedEntries m) ++ "\x7d"

/-- The quoted texts of items. -/
def quotedItems : List Value → List String
  | [] => []
  | v :: vs => v.quoted :: quotedItems vs

/-- The quoted texts of entries. -/
def quotedEntries : List (Key × Value) → List String
  | [] => []
  | (k, v) :: m => (k.quoted ++ ": " ++ v.quoted) :: quotedEntries m

end

mutual

/-- Whether all integers within a value are short enough to be written. -/
def Value.isWritable : Value → Bool
  | .int n => Numeral.isShort n
  | .list vs => areWritable vs
  | .tuple vs => areWritable vs
  | .set ks => ks.all Key.isWritable
  | .map m => entriesWritable m
  | _ => true

/-- Whether all items can be written. -/
def areWritable : List Value → Bool
  | [] => true
  | v :: vs => v.isWritable && areWritable vs

/-- Whether all entries can be written. -/
def entriesWritable : List (Key × Value) → Bool
  | [] => true
  | (k, v) :: m => k.isWritable && v.isWritable && entriesWritable m

end

/-- The text of a value. -/
def Value.display : Value → String
  | .text s => s
  | .moment t => t.name
  | v => v.quoted

end RamlDocs
