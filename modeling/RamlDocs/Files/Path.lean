import RamlDocs.Text.Letter

/-!
# Relative paths

A path is the list of the names it passes through. Empty names and single points are dropped when
a path is read; a double point is kept, because what it means depends on the files.
-/

namespace RamlDocs.Files

/-- A path relative to the working directory. -/
structure Path where
  names : List String
  deriving DecidableEq, Repr

namespace Path

/-- The path that a text spells. -/
def parse (s : String) : Path := ⟨(Text.splitAt '/' s).filter fun n => n != "" && n != "."⟩

/-- The path that `s` spells as seen from the directory `base`. -/
def join (base : Path) (s : String) : Path := ⟨base.names ++ (parse s).names⟩

/-- The directory that holds what the path names. -/
def parent (p : Path) : Path := ⟨p.names.dropLast⟩

/-- The text of a path. The working directory is a single point. -/
def display (p : Path) : String :=
  if p.names.isEmpty then "." else Text.joined "/" p.names

/-- The last name from its last point on; nothing if the name has no point within it. -/
def suffix (p : Path) : String :=
  match p.names.getLast? with
  | none => ""
  | some name =>
    let tail := (name.toList.reverse.takeWhile (· != '.')).reverse
    let start := name.length - tail.length
    if 1 < start && !tail.isEmpty then String.ofList ('.' :: tail) else ""

end Path

end RamlDocs.Files
