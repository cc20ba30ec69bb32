import RamlDocs.Files.Path
import RamlDocs.Text.Quoted
import RamlDocs.Text.Utf8

/-!
# A tree of files

The files a definition is read from, as a value. A path is followed name by name from the working
directory, which is the root of the tree; a file met on the way, a missing name or a name that is
too long stops it. What lies outside of the tree hangs under the double point of the root, and is
empty unless something is said to be there. Texts are read as UTF-8 without the mark at their
start, and every line end becomes a single line feed.
-/

namespace RamlDocs.Files

/-- A file with its bytes, or a directory with its named entries. -/
inductive Entry where
  | file (bytes : List Nat)
  | dir (children : List (String × Entry))
  deriving Inhabited

/-- Why a path leads nowhere, or to the wrong kind of entry. -/
inductive Refusal where
  | missing
  | exists
  | notDirectory
  | isDirectory
  | nameTooLong
  deriving DecidableEq, Repr

/-- The number of a refusal in messages. -/
def Refusal.number : Refusal → Nat
  | .missing => 2
  | .exists => 17
  | .notDirectory => 20
  | .isDirectory => 21
  | .nameTooLong => 36

/-- The wording of a refusal. -/
def Refusal.reason : Refusal → String
  | .missing => "No such file or directory"
  | .exists => "File exists"
  | .notDirectory => "Not a directory"
  | .isDirectory => "Is a directory"
  | .nameTooLong => "File name too long"

/-- The message of a refusal about a path. -/
def Refusal.message (r : Refusal) (p : Path) : String :=
  "[Errno " ++ toString r.number ++ "] " ++ r.reason ++ ": " ++ Text.quoted p.display

/-- Why a file cannot be read as text. -/
inductive ReadFault where
  | refused (r : Refusal)
  | notUtf8 (bad : Utf8.Bad) (offset : Nat)
  deriving DecidableEq, Repr

/-- The message of a fault about a path. -/
def ReadFault.message (p : Path) : ReadFault → String
  | .refused r => r.message p
  | .notUtf8 bad offset =>
    let place :=
      if bad.count = 1 then
        "byte 0x" ++ String.ofList (Text.hexDigits 2 bad.byte) ++ " in position " ++ toString offset
      else
        "bytes in position " ++ toString offset ++ "-" ++ toString (offset + bad.count - 1)
    "'utf-8' codec can't decode " ++ place ++ ": " ++ bad.reason.message

/-- The number of bytes that a name has at most. -/
def nameLimit : Nat := 255

/-- The number of bytes that a path has at most. -/
def pathLimit : Nat := 4095

namespace Entry

/-- The named entries of a directory; none for a file. -/
def children? : Entry → Option (List (String × Entry))
  | .dir es => some es
  | .file _ => none

/-- The entry under a name, an empty directory if there is none. -/
def childOf (es : List (String × Entry)) (name : String) : Entry := (es.lookup name).getD (.dir [])

end Entry

/-- How far a path has been followed: the entry that is met, the names that lead to it from the
root without going back, last name first, and the directories that it is in, innermost first. -/
structure Place where
  above : List Entry
  way : List String
  here : Entry

/-- The root of a tree. -/
def Place.root (e : Entry) : Place := ⟨[], [], e⟩

/-- The place that one name more leads to. -/
def Place.step (p : Place) (name : String) : Except Refusal Place :=
  match p.here.children? with
  | none => .error .notDirectory
  | some es =>
    if name == ".." then
      match p.above with
      | [] => .ok ⟨[], ".." :: p.way, Entry.childOf es ".."⟩
      | up :: rest => .ok ⟨rest, p.way.tail, up⟩
    else if nameLimit < name.utf8ByteSize then .error .nameTooLong
    else
      match es.lookup name with
      | none => .error .missing
      | some e => .ok ⟨p.here :: p.above, name :: p.way, e⟩

/-- The place that names lead to. -/
def Place.walk (p : Place) (names : List String) : Except Refusal Place := names.foldlM Place.step p

namespace Entry

/-- The entry at a path. -/
def locate (root : Entry) (p : Path) : Except Refusal Entry :=
  if pathLimit < p.display.utf8ByteSize then .error .nameTooLong
  else ((Place.root root).walk p.names).map Place.here

/-- The bytes of the file at a path. -/
def read (root : Entry) (p : Path) : Except Refusal (List Nat) :=
  match root.locate p with
  | .error r => .error r
  | .ok (.dir _) => .error .isDirectory
  | .ok (.file bytes) => .ok bytes

/-- Bytes without the mark of UTF-8 at their start. Bytes that end within the mark are empty. -/
def dropMark : List Nat → List Nat
  | [] => []
  | [0xef] => []
  | [0xef, 0xbb] => []
  | 0xef :: 0xbb :: 0xbf :: bytes => bytes
  | bytes => bytes

/-- Text with a line feed for each line end. -/
def unifyLineEnds : List Char → List Char
  | [] => []
  | '\r' :: '\n' :: cs => '\n' :: unifyLineEnds cs
  | '\r' :: cs => '\n' :: unifyLineEnds cs
  | c :: cs => c :: unifyLineEnds cs

/-- The text of the file at a path. -/
def readText (root : Entry) (p : Path) : Except ReadFault String :=
  match root.read p with
  | .error r => .error (.refused r)
  | .ok bytes =>
    match Utf8.decode (dropMark bytes) with
    | .error (bad, offset) => .error (.notUtf8 bad offset)
    | .ok s => .ok (String.ofList (unifyLineEnds s.toList))

/-- `es` with the entry of `name` replaced, or added at the end. -/
def putChild (name : String) (e : Entry) : List (String × Entry) → List (String × Entry)
  | [] => [(name, e)]
  | (n, old) :: es => if n = name then (n, e) :: es else (n, old) :: putChild name e es

end Entry

end RamlDocs.Files
