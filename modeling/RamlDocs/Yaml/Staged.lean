/-!
# Work in stages

The contents of a collection are read one stage after the collection itself, so a fault further
out comes before all faults further in, wherever they are written. `Staged` gives the stage of a
fault with it; of two faults the one of the earlier stage stands, of one stage the first.
-/

namespace RamlDocs

/-- A value, or the fault that ended the work with its stage. -/
abbrev Staged (ε α : Type) := Except (Nat × ε) α

namespace Staged

variable {ε α β : Type}

/-- Work of this very stage. -/
def now (x : Except ε α) : Staged ε α := x.mapError fun e => (0, e)

/-- The same work one stage later. -/
def later (x : Staged ε α) : Staged ε α := x.mapError fun e => (e.1 + 1, e.2)

/-- Two pieces of work side by side. -/
def both (x : Staged ε α) (y : Staged ε β) : Staged ε (α × β) :=
  match x, y with
  | .ok a, .ok b => .ok (a, b)
  | .ok _, .error e => .error e
  | .error e, .ok _ => .error e
  | .error d, .error e => .error (if e.1 < d.1 then e else d)

/-- All pieces of work of a list side by side. -/
def all : List (Staged ε α) → Staged ε (List α)
  | [] => .ok []
  | x :: xs => (both x (all xs)).map fun r => r.1 :: r.2

/-- A collection whose contents are the pieces of work of a list. -/
def filled (collect : List α → β) (contents : List (Staged ε α)) : Staged ε β :=
  later ((all contents).map collect)

/-- The outcome without stages. -/
def outcome (x : Staged ε α) : Except ε α := x.mapError (·.2)

end Staged

end RamlDocs
