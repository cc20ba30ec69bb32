import RamlDocs.Text.Letter
import RamlDocs.Text.Quoted
import RamlDocs.Text.Digit

/-!
# The scheme of a URI

`BaseUri.scheme` reads the scheme in front of the first colon. Reading a URI also looks at its
authority, the part between two slashes and the next slash, question mark or number sign, and
refuses one with unbalanced brackets, with a host in brackets that is no IPv6 address or does not
stand alone, or with characters that stand for separators.
-/

namespace RamlDocs.BaseUri

/-- Why a URI cannot be read. -/
inductive Fault where
  | brackets
  | noAddress (host : String)
  | addressVersion4
  | futureAddress
  | separator (authority : String)
  deriving DecidableEq, Repr

/-- The wording of a fault. -/
def Fault.message : Fault → String
  | .brackets => "Invalid IPv6 URL"
  | .noAddress host => Text.quoted host ++ " does not appear to be an IPv4 or IPv6 address"
  | .addressVersion4 => "An IPv4 address cannot be in brackets"
  | .futureAddress => "IPvFuture address is invalid"
  | .separator authority =>
    "netloc '" ++ authority ++ "' contains invalid characters under NFKC normalization"

/-- Control characters and the space, which are dropped from the start. -/
def isEdge (c : Char) : Bool := c.toNat ≤ 0x20

/-- Characters that are dropped wherever they stand. -/
def isDropped (c : Char) : Bool := c == '\t' || c == '\r' || c == '\n'

/-- Characters of schemes. -/
def isSchemeChar (c : Char) : Bool := c.isAlphanum || c == '+' || c == '-' || c == '.'

/-- The scheme in lower case and what follows its colon. -/
def splitScheme (cs : List Char) : List Char × List Char :=
  match cs.span (· != ':') with
  | (c :: scheme, _ :: rest) =>
    if c.isAlpha && scheme.all isSchemeChar then ((c :: scheme).map Char.toLower, rest) else ([], cs)
  | _ => ([], cs)

/-- The authority at the start of what follows a scheme. -/
def authority : List Char → List Char
  | '/' :: '/' :: rest => rest.takeWhile fun c => c != '/' && c != '?' && c != '#'
  | _ => []

/-- Characters beyond ASCII whose compatibility form holds a separator of authorities. -/
def standsForSeparator (c : Char) : Bool :=
  [0x2047, 0x2048, 0x2049, 0x2100, 0x2101, 0x2105, 0x2106, 0x2a74, 0xfe13, 0xfe16, 0xfe55, 0xfe56,
    0xfe5f, 0xfe6b, 0xff03, 0xff0f, 0xff1a, 0xff1f, 0xff20].contains c.toNat

/-- Whether `s` is one of the four numbers of an address of version four. -/
def isOctet (s : List Char) : Bool :=
  !s.isEmpty && s.length ≤ 3 && s.all Char.isDigit && (s.length == 1 || s.head? != some '0') &&
    s.foldl (fun n c => n * 10 + (c.toNat - 48)) 0 ≤ 255

/-- Whether `s` is an address of version four. -/
def isAddress4 (s : List Char) : Bool :=
  let parts := Text.splitWhere (· == '.') s
  parts.length == 4 && parts.all isOctet

/-- Whether `s` is a group of an address of version six. -/
def isGroup (s : List Char) : Bool :=
  !s.isEmpty && s.length ≤ 4 && s.all fun c => (Text.digitValueIn? 16 c).isSome && c.toNat < 0x80

/-- Groups with a version four address at the end counted as two groups. -/
def unfoldLast (groups : List (List Char)) : Option (List (List Char)) :=
  match groups.getLast? with
  | some last =>
    if last.contains '.' then
      if isAddress4 last then some (groups.dropLast ++ [['0'], ['0']]) else none
    else some groups
  | none => some groups

/-- Whether `s` is an address of version six: eight groups, or fewer with one pair of colons in
place of the missing ones. -/
def isAddress6 (s : List Char) : Bool :=
  let (address, zone) := s.span (· != '%')
  let zoneOk := zone.isEmpty || (1 < zone.length && !(zone.drop 1).contains '%')
  let groups := Text.splitWhere (· == ':') address
  if groups.length < 3 then false
  else
    match unfoldLast groups with
    | none => false
    | some groups =>
      let inner := (groups.drop 1).dropLast
      let gaps := (inner.filter (·.isEmpty)).length
      let first := (groups.head?.getD []).isEmpty
      let last := (groups.getLast?.getD []).isEmpty
      zoneOk && groups.length ≤ 9 && (groups.all fun g => g.isEmpty || isGroup g) &&
        (if gaps == 0 then groups.length == 8 && !first && !last
         else if gaps == 1 then
           let before := inner.takeWhile (!·.isEmpty)
           let after := inner.drop (before.length + 1)
           let left := if first then 0 else before.length + 1
           let right := if last then 0 else after.length + 1
           (!first || before.isEmpty) && (!last || after.isEmpty) && left + right < 8
         else
           gaps == 1)

/-- A host of a later version: the letter v, hexadecimal digits, a point and something. -/
def isFutureAddress (s : List Char) : Bool :=
  let (version, rest) := (s.drop 1).span fun c => (Text.digitValueIn? 16 c).isSome && c.toNat < 0x80
  !version.isEmpty && rest.head? == some '.' && 1 < rest.length

/-- The first fault of a host in brackets. -/
def checkHost (host : List Char) : Except Fault Unit :=
  if host.head? == some 'v' then if isFutureAddress host then .ok () else .error .futureAddress
  else if isAddress4 host then .error .addressVersion4
  else if isAddress6 host then .ok ()
  else .error (.noAddress (String.ofList host))

/-- The part of an authority after the user: what stands after the last at sign. -/
def hostAndPort (cs : List Char) : List Char :=
  ((Text.splitWhere (· == '@') cs).getLast?).getD cs

/-- The host of an authority that has both brackets. With a bracket after the user nothing may
stand before it, and only a port after the closing one. -/
def host? (cs : List Char) : Option (List Char) :=
  let rest := hostAndPort cs
  match rest.span (· != '[') with
  | (_, []) => some (rest.takeWhile (· != ':'))
  | (_ :: _, _ :: _) => none
  | ([], _ :: bracketed) =>
    let (host, closing) := bracketed.span (· != ']')
    match closing.drop 1 with
    | [] => some host
    | c :: _ => if c == ':' then some host else none

/-- The first fault of an authority. -/
def checkAuthority (cs : List Char) : Except Fault Unit := do
  let opened := cs.contains '['
  let closed := cs.contains ']'
  if opened != closed then .error .brackets
  else if opened then
    match host? cs with
    | some host => checkHost host
    | none => .error .brackets
  if cs.any standsForSeparator then .error (.separator (String.ofList cs))

/-- The scheme of a URI, empty if it has none. -/
def scheme (uri : String) : Except Fault String := do
  let (scheme, rest) := splitScheme ((uri.toList.dropWhile isEdge).filter (!isDropped ·))
  checkAuthority (authority rest)
  .ok (String.ofList scheme)

end RamlDocs.BaseUri
