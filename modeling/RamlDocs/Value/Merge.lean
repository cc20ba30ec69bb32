import RamlDocs.Value.Basic

/-!
# Merging mappings

`Mapping.merge primary secondary` completes `primary` by `secondary`: what `primary` says stays,
a key that is missing or null there takes the value of `secondary`, and where both sides have a
mapping the two are merged in turn.
-/

namespace RamlDocs

mutual

/-- The first value completed by the second. -/
def Value.completedBy : Value → Value → Value
  | .null, w => w
  | .map m, .map n => .map (Mapping.merge m n)
  | v, _ => v

/-- The first mapping completed by the second. -/
def Mapping.merge (primary : Mapping) : List (Key × Value) → Mapping
  | [] => primary
  | (k, w) :: secondary =>
    let v :=
      match Mapping.find? primary k with
      | none => w
      | some v => v.completedBy w
    Mapping.merge (Mapping.put primary k v) secondary

end

end RamlDocs
