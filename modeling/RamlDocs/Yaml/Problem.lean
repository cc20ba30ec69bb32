import RamlDocs.Fault

/-!
# Problems of a text

A text that does not follow the file format is malformed, wherever the trouble lies; the file it
belongs to is named by whoever reads the file. A value without a sensible reading is a fault of
its own.
-/

namespace RamlDocs.Yaml

/-- Why a text is not read. -/
inductive Problem where
  | malformed
  | fault (f : Fault)
  deriving DecidableEq, Repr

/-- The problem as a fault of the file at `path`. -/
def Problem.at (path : Files.Path) : Problem → Fault
  | .malformed => .rejected (.malformed path)
  | .fault f => f

end RamlDocs.Yaml
