import RamlDocs.Files.Tree

/-!
# Writing into a tree of files

Directories are made where they are missing, and a file is put in place of an old one. What is in
the way is reported under the path where it was met; the directories made before stay.
-/

namespace RamlDocs.Files.Entry

/-- The tree with `change` made to the entries of the directory at the end of a way down. -/
def changeAt (change : List (String × Entry) → List (String × Entry)) : List String → Entry → Entry
  | [], e => .dir (change ((e.children?).getD []))
  | name :: names, e =>
    let es := (e.children?).getD []
    .dir (putChild name (changeAt change names (childOf es name)) es)

/-- The tree with an entry put under the last name of a path. `replaces` says whether what is there
may be replaced. -/
def insert (root : Entry) (p : Path) (replaces : Entry → Except Refusal Unit) (e : Entry) :
    Except Refusal Entry :=
  if pathLimit < p.display.utf8ByteSize then .error .nameTooLong
  else
    match p.names.getLast? with
    | none => .error .exists
    | some name => do
      let parent ← (Place.root root).walk p.names.dropLast
      match parent.here.children? with
      | none => .error .notDirectory
      | some es =>
        if name == ".." then .error .exists
        else if nameLimit < name.utf8ByteSize then .error .nameTooLong
        else do
          match es.lookup name with
          | some old => replaces old
          | none => pure ()
          .ok (changeAt (putChild name e) parent.way.reverse root)

/-- The tree with a new directory. -/
def makeDirectory (root : Entry) (p : Path) : Except Refusal Entry :=
  root.insert p (fun _ => .error .exists) (.dir [])

/-- Whether a path leads to a directory. -/
def isDirectory (root : Entry) (p : Path) : Bool :=
  match root.locate p with
  | .ok e => e.children?.isSome
  | .error _ => false

/-- The tree with a file at a path in a directory that exists. A directory is not replaced. -/
def writeFile (root : Entry) (p : Path) (bytes : List Nat) : Except Refusal Entry :=
  if root.isDirectory p then .error .isDirectory
  else
    root.insert p
      (fun old => if old.children?.isSome then .error .isDirectory else .ok ()) (.file bytes)

/-- The tree after a change of several steps was tried, and what stopped it, if anything did. -/
abbrev Attempt := Entry × Option (Refusal × Path)

/-- The tree with a directory at the path of the names, given last name first, and with all
directories that lead to it. -/
def ensureDirectory (root : Entry) : List String → Attempt
  | [] => (root, none)
  | name :: up =>
    let p : Path := ⟨up.reverse ++ [name]⟩
    let settle (root : Entry) (r : Refusal) : Attempt :=
      if root.isDirectory p then (root, none) else (root, some (r, p))
    match root.makeDirectory p with
    | .ok root => (root, none)
    | .error .missing =>
      match ensureDirectory root up with
      | (root, none) =>
        match root.makeDirectory p with
        | .ok root => (root, none)
        | .error r => settle root r
      | (root, some trouble) => (root, some trouble)
    | .error r => settle root r

/-- The tree with a text saved at a path, directories made where they are missing. -/
def save (root : Entry) (p : Path) (text : String) : Attempt :=
  match root.ensureDirectory p.parent.names.reverse with
  | (root, some trouble) => (root, some trouble)
  | (root, none) =>
    match root.writeFile p (text.toUTF8.toList.map UInt8.toNat) with
    | .ok root => (root, none)
    | .error r => (root, some (r, p))

end RamlDocs.Files.Entry
