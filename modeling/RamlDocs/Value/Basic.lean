import RamlDocs.Calendar
import RamlDocs.Number.Binary64

/-!
# Values

What an API definition is made of once it is read: null, booleans, numbers, texts, lists and
mappings. Mappings keep the order in which their keys first came. Further values reach a definition
through tags of the file format: tuples, which are no lists to any rule of this library, sets, and
inside these bytes and points in time.

The main operations are `Mapping.get?`, the value of a text key, `Mapping.put`, which replaces the
value of a key in place or adds the key at the end, and `Mapping.overlay`.
-/

namespace RamlDocs

/-- A mapping key. The mappings of a definition have text keys only, except those inside tuples;
filling in a template can put any scalar into key position. -/
inductive Key where
  | null
  | bool (b : Bool)
  | int (n : Int)
  | float (x : Binary64)
  | text (s : String)
  | bytes (bs : List Nat)
  | moment (t : Calendar.Timestamp)
  deriving DecidableEq, Repr

/-- A value of an API definition. -/
inductive Value where
  | null
  | bool (b : Bool)
  | int (n : Int)
  | float (x : Binary64)
  | text (s : String)
  | bytes (bs : List Nat)
  | moment (t : Calendar.Timestamp)
  | list (items : List Value)
  | tuple (items : List Value)
  | set (members : List Key)
  | map (entries : List (Key × Value))
  deriving Repr, Inhabited

/-- Keys and their values, in the order in which the keys first came. -/
abbrev Mapping := List (Key × Value)

namespace Key

/-- The key that stands for all keys equal to `k`: booleans and integral floating point numbers
are equal to integers. -/
def canonical : Key → Key
  | .bool b => .int (if b then 1 else 0)
  | .float x =>
    match x.integer? with
    | some n => .int n
    | none => .float x
  | k => k

/-- Whether two keys name the same entry of a mapping. -/
def same : Key → Key → Bool
  | .moment t, .moment u => t.same u
  | k, l => k.canonical == l.canonical

/-- The key as a value. -/
def toValue : Key → Value
  | .null => .null
  | .bool b => .bool b
  | .int n => .int n
  | .float x => .float x
  | .text s => .text s
  | .bytes bs => .bytes bs
  | .moment t => .moment t

/-- The text of a text key. -/
def text? : Key → Option String
  | .text s => some s
  | _ => none

end Key

namespace Mapping

/-- The value of the entry that `k` names. -/
def find? (m : Mapping) (k : Key) : Option Value :=
  (List.find? (fun e => e.1.same k) m).map (·.2)

/-- The value of a text key. -/
def get? (m : Mapping) (name : String) : Option Value := find? m (.text name)

/-- The value of a text key, null if there is none. -/
def get (m : Mapping) (name : String) : Value := (get? m name).getD .null

/-- Whether a text key is present. -/
def has (m : Mapping) (name : String) : Bool := (get? m name).isSome

/-- The value of `k` replaced in place, or `k` added at the end. -/
def put : Mapping → Key → Value → Mapping
  | [], k, v => [(k, v)]
  | (l, w) :: m, k, v => if l.same k then (l, v) :: m else (l, w) :: put m k v

/-- `put` for a text key. -/
def set (m : Mapping) (name : String) (v : Value) : Mapping := put m (.text name) v

/-- The entries of `above` put over those of `below`, in order. -/
def overlay (below above : Mapping) : Mapping :=
  above.foldl (fun m e => put m e.1 e.2) below

/-- The mapping of a list of entries: a later entry of the same key replaces the value of an
earlier one in its place. -/
def ofList (entries : List (Key × Value)) : Mapping := overlay [] entries

/-- The entries whose key is not the text `name`. -/
def without (m : Mapping) (name : String) : Mapping := m.filter (fun e => e.1 != .text name)

/-- The entries with text keys. -/
def texts (m : Mapping) : List (String × Value) :=
  m.filterMap fun e => e.1.text?.map fun s => (s, e.2)

end Mapping

namespace Value

/-- The entries of a mapping; nothing for any other value. -/
def entries : Value → Mapping
  | .map m => m
  | _ => []

/-- The items of a list; nothing for any other value. -/
def items : Value → List Value
  | .list vs => vs
  | _ => []

/-- Whether the value is a mapping. -/
def isMap : Value → Bool
  | .map _ => true
  | _ => false

/-- Whether the value is null. -/
def isNull : Value → Bool
  | .null => true
  | _ => false

/-- The text of a text value. -/
def text? : Value → Option String
  | .text s => some s
  | _ => none

/-- The key that a value is; containers are none. -/
def key? : Value → Option Key
  | .null => some .null
  | .bool b => some (.bool b)
  | .int n => some (.int n)
  | .float x => some (.float x)
  | .text s => some (.text s)
  | .bytes bs => some (.bytes bs)
  | .moment t => some (.moment t)
  | _ => none

/-- The name of the kind of a value. -/
def kind : Value → String
  | .null => "NoneType"
  | .bool _ => "bool"
  | .int _ => "int"
  | .float _ => "float"
  | .text _ => "str"
  | .bytes _ => "bytes"
  | .moment t => t.kind
  | .list _ => "list"
  | .tuple _ => "tuple"
  | .set _ => "set"
  | .map _ => "dict"

/-- The boolean of a boolean value. -/
def bool? : Value → Option Bool
  | .bool b => some b
  | _ => none

/-- Whether the value is neither null nor false, zero or empty. -/
def isTruthy : Value → Bool
  | .null => false
  | .bool b => b
  | .int n => n != 0
  | .float x => !x.isZero
  | .text s => s != ""
  | .bytes bs => !bs.isEmpty
  | .moment _ => true
  | .list vs => !vs.isEmpty
  | .tuple vs => !vs.isEmpty
  | .set ks => !ks.isEmpty
  | .map m => !m.isEmpty

/-- A text, or null for none. -/
def ofText? : Option String → Value
  | some s => .text s
  | none => .null

/-- An integer, or null for none. -/
def ofInt? : Option Int → Value
  | some n => .int n
  | none => .null

/-- A boolean, or null for none. -/
def ofBool? : Option Bool → Value
  | some b => .bool b
  | none => .null

/-- A mapping with text keys. -/
def record (fields : List (String × Value)) : Value := .map (fields.map fun f => (.text f.1, f.2))

end Value

end RamlDocs
