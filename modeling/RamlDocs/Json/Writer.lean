import RamlDocs.Text.Utf8
import RamlDocs.Value.Display

/-!
# Writing JSON

Two forms. `Json.compact` writes on one line, with all characters beyond ASCII escaped.
`Json.indented` writes each element on a line of its own and escapes only what JSON requires; a
number that is not finite becomes null there. Values that JSON does not have are written as texts,
except that sets become arrays in the second form. A set has no order of its own: in which order its
members come is up to the process that writes it (`Json.SetOrder`). Bytes are written as the text
that they encode, and where they encode none the second form comes to nothing.
-/

namespace RamlDocs.Json

/-- The escape of one letter for a character, if there is one. -/
def shortEscape? : Char → Option Char
  | '\x22' => some '\x22'
  | '\\' => some '\\'
  | '\n' => some 'n'
  | '\r' => some 'r'
  | '\t' => some 't'
  | '\x0c' => some 'f'
  | '\x08' => some 'b'
  | _ => none

/-- A code unit as an escape. -/
def unitEscape (n : Nat) : List Char := '\\' :: 'u' :: Text.hexDigits 4 n

/-- One character of a text with only ASCII characters; beyond the basic plane it takes a pair
of escapes. -/
def asciiChar (c : Char) : List Char :=
  match shortEscape? c with
  | some e => ['\\', e]
  | none =>
    let n := c.toNat
    if 0x20 ≤ n && n < 0x7f then [c]
    else if n < 0x10000 then unitEscape n
    else
      unitEscape (0xd800 + (n - 0x10000) / 0x400) ++ unitEscape (0xdc00 + (n - 0x10000) % 0x400)

/-- One character of a text with only the control characters escaped. -/
def plainChar (c : Char) : List Char :=
  match shortEscape? c with
  | some e => ['\\', e]
  | none => if c.toNat < 0x20 then unitEscape c.toNat else [c]

/-- A text between quotes, its characters written by `write`. -/
def quotedBy (write : Char → List Char) (s : String) : String :=
  String.ofList ('\x22' :: s.toList.flatMap write ++ ['\x22'])

/-- A key as the text of a name. -/
def scalarName (layout : Binary64.Layout) (none : String) : Key → String
  | .null => none
  | .bool b => if b then "true" else "false"
  | .int n => toString n
  | .float x => x.text layout
  | .text s => s
  | .bytes bs => (Key.bytes bs).display
  | .moment t => t.name

mutual

/-- A value on one line. -/
def compact : Value → String
  | .null => "null"
  | .bool b => if b then "true" else "false"
  | .int n => toString n
  | .float x => x.text .json
  | .text s => quotedBy asciiChar s
  | .bytes bs => quotedBy asciiChar (Value.bytes bs).display
  | .moment t => quotedBy asciiChar t.name
  | .list vs => "[" ++ Text.joined ", " (compactItems vs) ++ "]"
  | .tuple vs => "[" ++ Text.joined ", " (compactItems vs) ++ "]"
  | .set ks => quotedBy asciiChar (Value.set ks).display
  | .map m => "\x7b" ++ Text.joined ", " (compactEntries m) ++ "\x7d"

/-- Items on one line each by itself. -/
def compactItems : List Value → List String
  | [] => []
  | v :: vs => compact v :: compactItems vs

/-- Entries, each by itself. -/
def compactEntries : List (Key × Value) → List String
  | [] => []
  | (k, v) :: m =>
    (quotedBy asciiChar (scalarName .json "null" k) ++ ": " ++ compact v) :: compactEntries m

end

/-- Elements between brackets, each on a line of its own at depth `depth + 1`. -/
def block (indent depth : Nat) (left right : String) (elements : List String) : String :=
  if elements.isEmpty then left ++ right
  else
    let start (d : Nat) : String := "\n" ++ String.ofList (List.replicate (indent * d) ' ')
    left ++ start (depth + 1) ++ Text.joined ("," ++ start (depth + 1)) elements ++ start depth ++
      right

/-- A point in time in a written view. -/
def momentText (t : Calendar.Timestamp) : String :=
  if t.time.bind (·.offset) = some 0 then t.withoutOffset.text ++ "Z" else t.text

/-- The order in which a process lists the members of a set. Another process may list the same
members in another order. -/
structure SetOrder where
  arrange : List Key → List Key
  perm : ∀ ks, (arrange ks).Perm ks

/-- The members of sets as they were read. -/
def SetOrder.asRead : SetOrder := ⟨id, fun _ => .rfl⟩

/-- Text that bytes may stand in the way of. -/
abbrev Encoded := Except (Utf8.Bad × Nat)

/-- A key as the text of a name in a written view. -/
def indentedName : Key → Encoded String
  | .bytes bs => Utf8.decode bs
  | .moment t => .ok (momentText t)
  | k => .ok (scalarName .plain "None" k)

/-- A key as a value of a written view. -/
def indentedKey : Key → Encoded String
  | .text s => .ok (quotedBy plainChar s)
  | .bytes bs => (Utf8.decode bs).map (quotedBy plainChar)
  | .moment t => .ok (quotedBy plainChar (momentText t))
  | k => .ok (scalarName .view "null" k)

mutual

/-- A value at a depth, with `indent` spaces for each level. -/
def indented (order : SetOrder) (indent depth : Nat) : Value → Encoded String
  | .null => .ok "null"
  | .bool b => .ok (if b then "true" else "false")
  | .int n => .ok (toString n)
  | .float x => .ok (x.text .view)
  | .text s => .ok (quotedBy plainChar s)
  | .bytes bs => (Utf8.decode bs).map (quotedBy plainChar)
  | .moment t => .ok (quotedBy plainChar (momentText t))
  | .list vs => (indentedItems order indent depth vs).map (block indent depth "[" "]")
  | .tuple vs => (indentedItems order indent depth vs).map (block indent depth "[" "]")
  | .set ks => ((order.arrange ks).mapM indentedKey).map (block indent depth "[" "]")
  | .map m => (indentedEntries order indent depth m).map (block indent depth "\x7b" "\x7d")

/-- Items at depth `depth + 1`. -/
def indentedItems (order : SetOrder) (indent depth : Nat) : List Value → Encoded (List String)
  | [] => .ok []
  | v :: vs => do
    let first ← indented order indent (depth + 1) v
    let rest ← indentedItems order indent depth vs
    .ok (first :: rest)

/-- Entries at depth `depth + 1`. -/
def indentedEntries (order : SetOrder) (indent depth : Nat) :
    List (Key × Value) → Encoded (List String)
  | [] => .ok []
  | (k, v) :: m => do
    let name ← indentedName k
    let value ← indented order indent (depth + 1) v
    let rest ← indentedEntries order indent depth m
    .ok ((quotedBy plainChar name ++ ": " ++ value) :: rest)

end

end RamlDocs.Json
