import RamlDocs.Value.Basic

/-!
# The depth of a value

How many containers lie inside one another.
-/

namespace RamlDocs

mutual

/-- The number of containers around the innermost part of a value. -/
def Value.depth : Value → Nat
  | .list vs => depthOfItems vs + 1
  | .tuple vs => depthOfItems vs + 1
  | .map m => depthOfEntries m + 1
  | _ => 0

/-- The greatest depth of items. -/
def depthOfItems : List Value → Nat
  | [] => 0
  | v :: vs => max v.depth (depthOfItems vs)

/-- The greatest depth of the values of entries. -/
def depthOfEntries : List (Key × Value) → Nat
  | [] => 0
  | (_, v) :: m => max v.depth (depthOfEntries m)

end

end RamlDocs
