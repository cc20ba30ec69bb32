import RamlDocs.Value.Display

/-!
# What has no JSON form

Sets, bytes and points in time have no JSON form, and neither has an integer with too many digits.
A mapping can have texts, numbers, booleans and null as keys. `Json.obstacle?` finds the first part
of a value that stands in the way, a key before its value.
-/

namespace RamlDocs.Json

/-- What keeps a value from being written as JSON. -/
inductive Obstacle where
  /-- A value of a kind that JSON does not have. -/
  | value (kind : String)
  /-- A key of a kind that names of JSON cannot stand for. -/
  | key (kind : String)
  /-- An integer with too many digits. -/
  | longInteger
  deriving DecidableEq, Repr

/-- The wording of an obstacle. -/
def Obstacle.message : Obstacle → String
  | .value kind => "Object of type " ++ kind ++ " is not JSON serializable"
  | .key kind => "keys must be str, int, float, bool or None, not " ++ kind
  | .longInteger => Numeral.limitMessage ""

/-- The obstacle that a key is. -/
def keyObstacle? : Key → Option Obstacle
  | .int n => if Numeral.isShort n then none else some .longInteger
  | .bytes _ => some (.key "bytes")
  | .moment t => some (.key ("datetime." ++ t.kind))
  | _ => none

/-- What stands in the way of a value that JSON does not have: its kind, or where the text of such
values takes their place only an integer that cannot be written. -/
def foreignObstacle? (asText : Bool) (kind : String) (v : Value) : Option Obstacle :=
  if !asText then some (.value kind)
  else if v.isWritable then none
  else some .longInteger

mutual

/-- The first obstacle in a value. `asText` says that texts take the place of values that JSON does
not have. -/
def obstacle? (asText : Bool) : Value → Option Obstacle
  | .int n => if Numeral.isShort n then none else some .longInteger
  | .bytes bs => foreignObstacle? asText "bytes" (.bytes bs)
  | .moment t => foreignObstacle? asText (t.kind) (.moment t)
  | .set ks => foreignObstacle? asText "set" (.set ks)
  | .list vs => itemsObstacle? asText vs
  | .tuple vs => itemsObstacle? asText vs
  | .map m => entriesObstacle? asText m
  | _ => none

/-- The first obstacle in items. -/
def itemsObstacle? (asText : Bool) : List Value → Option Obstacle
  | [] => none
  | v :: vs => (obstacle? asText v).orElse fun _ => itemsObstacle? asText vs

/-- The first obstacle in entries. -/
def entriesObstacle? (asText : Bool) : List (Key × Value) → Option Obstacle
  | [] => none
  | (k, v) :: m =>
    (keyObstacle? k).orElse fun _ =>
      (obstacle? asText v).orElse fun _ => entriesObstacle? asText m

end

end RamlDocs.Json
