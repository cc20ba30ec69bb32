import RamlDocs.Calendar

/-!
# Tags

The tag of a node says which kind of value it spells. Nodes can carry their tag; the tag of a plain
scalar without one is read off its characters by `Tag.ofPlain`, which knows booleans, integers in
four bases and in sixtieths, decimals, dates and the two special keys.
-/

namespace RamlDocs.Yaml

/-- What a node spells. -/
inductive Tag where
  | text
  | int
  | float
  | bool
  | null
  | binary
  | timestamp
  | list
  | map
  | set
  | pairs
  | orderedMap
  | merge
  | value
  | fileContent
  | unknown
  deriving DecidableEq, Repr

namespace Tag

/-- The start that all tags of the format share. -/
def standard : String := "tag:yaml.org,2002:"

/-- The tag that is written out as `s`. -/
def ofName (s : String) : Tag :=
  if s == "!include" then .fileContent
  else
    match (standard.toList.isPrefixOf s.toList : Bool) with
    | false => .unknown
    | true =>
      match String.ofList (s.toList.drop standard.length) with
      | "str" => .text
      | "int" => .int
      | "float" => .float
      | "bool" => .bool
      | "null" => .null
      | "binary" => .binary
      | "timestamp" => .timestamp
      | "seq" => .list
      | "map" => .map
      | "set" => .set
      | "pairs" => .pairs
      | "omap" => .orderedMap
      | "merge" => .merge
      | "value" => .value
      | _ => .unknown

/-! ## Plain scalars -/

/-- A sign dropped from the start. -/
def dropSign : List Char → List Char
  | '-' :: cs => cs
  | '+' :: cs => cs
  | cs => cs

/-- Whether a character belongs to a decimal run: a digit or a low line. -/
def isDecimal (c : Char) : Bool := c.isDigit || c == '_'

/-- Groups of sixtieths dropped from the start: each a colon and a number below sixty. -/
def dropSixtieths : List Char → List Char
  | ':' :: a :: b :: cs =>
    if '0' ≤ a && a ≤ '5' && b.isDigit then dropSixtieths cs
    else if a.isDigit then dropSixtieths (b :: cs)
    else ':' :: a :: b :: cs
  | [':', a] => if a.isDigit then [] else [':', a]
  | cs => cs
termination_by cs => cs.length

/-- Whether characters spell an integer. -/
def isInt (cs : List Char) : Bool :=
  match dropSign cs with
  | '0' :: 'b' :: ds => !ds.isEmpty && ds.all fun c => c == '0' || c == '1' || c == '_'
  | '0' :: 'x' :: ds =>
    !ds.isEmpty && ds.all fun c => isDecimal c || ('a' ≤ c && c ≤ 'f') || ('A' ≤ c && c ≤ 'F')
  | '0' :: ds => ds.all fun c => ('0' ≤ c && c ≤ '7') || c == '_'
  | c :: ds => c.isDigit && (dropSixtieths (ds.dropWhile isDecimal)).isEmpty
  | [] => false

/-- Whether characters are nothing, or an exponent with its sign. -/
def isExponent : List Char → Bool
  | [] => true
  | e :: sign :: ds =>
    (e == 'e' || e == 'E') && (sign == '-' || sign == '+') && !ds.isEmpty && ds.all Char.isDigit
  | _ => false

/-- Whether characters spell a number with a point. Only a number that starts with a digit may
have a sign or sixtieths. -/
def isFloat (cs : List Char) : Bool :=
  let body := dropSign cs
  let signed := body.length < cs.length
  match body with
  | '.' :: ds =>
    let word := String.ofList ds
    ["inf", "Inf", "INF"].contains word || (!signed && (["nan", "NaN", "NAN"].contains word ||
      (((ds.head?).any Char.isDigit) && isExponent (ds.dropWhile isDecimal))))
  | c :: ds =>
    let rest := ds.dropWhile isDecimal
    c.isDigit &&
      match rest with
      | '.' :: more => isExponent (more.dropWhile isDecimal)
      | ':' :: _ =>
        match dropSixtieths rest with
        | '.' :: more => more.all isDecimal
        | _ => false
      | _ => false
  | [] => false

/-- The words for true and false, in lower case. -/
def booleans : List (String × Bool) :=
  [("yes", true), ("no", false), ("true", true), ("false", false), ("on", true), ("off", false)]

/-- Whether a text is a word for true or false: in lower case, in upper case or capitalised. -/
def isBool (s : String) : Bool :=
  booleans.any fun w => s == w.1 || s == w.1.toUpper || s == w.1.capitalize

/-- A text without a line end at its very end. -/
def dropFinalBreak (cs : List Char) : List Char :=
  if cs.getLast? == some '\n' then cs.dropLast else cs

/-- The tag of a plain scalar. -/
def ofPlain (text : String) : Tag :=
  let cs := if text == "\n" then text.toList else dropFinalBreak text.toList
  let s := String.ofList cs
  if isBool s then .bool
  else if isFloat cs then .float
  else if isInt cs then .int
  else if s == "<<" then .merge
  else if ["~", "null", "Null", "NULL", ""].contains s then .null
  else if Calendar.isTimestamp cs then .timestamp
  else if s == "=" then .value
  else if ["!", "&", "*"].contains s then .unknown
  else .text

end Tag

end RamlDocs.Yaml
