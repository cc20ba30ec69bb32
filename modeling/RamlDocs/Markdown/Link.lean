import RamlDocs.Markdown.Rule

/-!
# Links and images

A text in square brackets, with its address in round brackets behind it or under its name among the
targets of the text, is a link; after an exclamation mark it is an image. An address may be followed
by a title in quotes. Where the quotes of a title are not closed, they belong to the address.
-/

namespace RamlDocs.Markdown.Link

/-- The text up to the bracket that closes it, behind its opening bracket, with what follows. -/
def bracketed (depth : Nat) (text : List Symbol) : List Symbol → Option (List Symbol × List Symbol)
  | [] => none
  | s :: ss =>
    if s.is ']' then
      match depth with
      | 0 => some (text.reverse, ss)
      | depth + 1 => bracketed depth (s :: text) ss
    else if s.is '[' then bracketed (depth + 1) (s :: text) ss
    else bracketed depth (s :: text) ss

/-! ## Addresses -/

/-- A quote within an address: its character, and the numbers of symbols before its start and
before its last end. -/
structure Quote where
  mark : Char
  start : Nat
  close : Option Nat

/-- Whether the symbol before is the closing quote. -/
def Quote.isClosedBy (q : Quote) (last : Option Symbol) : Bool :=
  q.close.isSome && last.any (Symbol.is q.mark)

/-- The walk through an address: open brackets, open brackets outside the title, the first and the
second kind of quotes, the last symbol that is no space, and where the address would end if the
title turns out to be none. -/
structure Walk where
  open_ : Nat
  outside : Nat
  first : Option Quote
  second : Option Quote
  last : Option Symbol
  fallback : Option Nat

namespace Walk

/-- A walk behind the opening bracket. -/
def start : Walk := ⟨1, 1, none, none, none, none⟩

/-- The quotes after one more quote with `place` symbols before it. -/
def quote (w : Walk) (c : Char) (place : Nat) : Walk :=
  match w.first with
  | none => { w with outside := w.open_, open_ := 1, first := some ⟨c, place, none⟩ }
  | some q =>
    if c == q.mark then { w with first := some { q with close := some place } }
    else
      match w.second with
      | none => { w with second := some ⟨c, place, none⟩ }
      | some r => { w with second := some { r with close := some place } }

/-- The walk after one more symbol with `place` symbols before it. Within a title brackets do not
count, except that one right behind the closing quote closes the address. -/
def step (w : Walk) (s : Symbol) (place : Nat) : Walk :=
  match s.char? with
  | some '(' =>
    if w.first.isNone then { w with open_ := w.open_ + 1 } else { w with outside := w.outside - 1 }
  | some ')' =>
    if w.first.any (·.isClosedBy w.last) || w.second.any (·.isClosedBy w.last) then
      { w with open_ := 0 }
    else if w.first.isNone then { w with open_ := w.open_ - 1 }
    else if w.outside == 1 then { w with outside := 0, fallback := some place }
    else { w with outside := w.outside - 1 }
  | some c => if c == '\x27' || c == '\x22' then w.quote c place else w
  | none => w

end Walk

/-- The number of symbols of an address up to its closing bracket, with the walk to there. -/
def walkFrom (w : Walk) (place : Nat) : List Symbol → Walk × Option Nat
  | [] => (w, none)
  | s :: ss =>
    let w := w.step s place
    if w.open_ == 0 then (w, some place)
    else walkFrom (if s.is ' ' then w else { w with last := some s }) (place + 1) ss

/-- The symbols between two places. -/
def slice (start stop : Nat) (ss : List Symbol) : List Symbol := (ss.take stop).drop start

/-- The text between the quotes of a title. -/
def Quote.text (q : Quote) (ss : List Symbol) : List Symbol :=
  slice (q.start + 1) (q.close.getD 0) ss

/-- An address and a title, if there is one, behind the opening bracket and blanks, with what
follows the closing bracket. Where an opening bracket within a title that is not closed was the last
to count, the address goes up to the last but one symbol of the text, and the last one follows. -/
def addressIn (ss : List Symbol) : Option (List Symbol × Option (List Symbol) × List Symbol) :=
  let (w, stop) := walkFrom .start 0 ss
  match stop with
  | some stop =>
    let rest := ss.drop (stop + 1)
    let closed (q : Option Quote) : Option Quote := q.filter (·.isClosedBy w.last)
    match (closed w.first).orElse fun _ => closed w.second with
    | some q => some (ss.take q.start, some (q.text ss), rest)
    | none => some (ss.take stop, none, rest)
  | none =>
    match w.fallback with
    | some place => some (ss.take place, none, ss.drop (place + 1))
    | none =>
      if w.outside == 0 then some (ss.take (ss.length - 2), none, ss.drop (ss.length - 1))
      else none

/-- Blanks dropped from the start. -/
def dropBlanks (ss : List Symbol) : List Symbol := ss.dropWhile Symbol.isBlank

/-- A title in quotes behind an address in angle brackets, and what follows it. -/
def quotedTitle (ss : List Symbol) : Option (List Symbol × List Symbol) :=
  match ss with
  | .char c :: rest => if c == '\x27' || c == '\x22' then Rule.upTo c rest else none
  | _ => none

/-- An address in angle brackets behind the opening bracket and blanks, a title if there is one,
and the closing bracket. -/
def angledAddress (ss : List Symbol) : Option (List Symbol × Option (List Symbol) × List Symbol) :=
  match Rule.angled ss with
  | some (inner, rest) =>
    let rest := dropBlanks rest
    let (title, rest) :=
      match quotedTitle rest with
      | some (title, rest) => (some title, dropBlanks rest)
      | none => (none, rest)
    match rest with
    | .char ')' :: rest => some (Symbol.trim inner, title, rest)
    | _ => none
  | none => none

/-- An outer pair of quotes dropped. -/
def unquote (ss : List Symbol) : List Symbol :=
  let quotes (c : Char) : Bool := (ss.head?).any (Symbol.is c) && (ss.getLast?).any (Symbol.is c)
  if quotes '\x22' || quotes '\x27' then (ss.drop 1).dropLast else ss

/-- A title as it is shown: on one line. -/
def titleText (ss : List Symbol) : List Symbol :=
  (unquote (plainSymbols (Symbol.trim ss))).map fun s => if s.isBlank then .char ' ' else s

/-- The address and the title in round brackets at the start. -/
def destination (ss : List Symbol) : Option (List Symbol × Option (List Symbol) × List Symbol) :=
  match ss with
  | .char '(' :: rest =>
    let rest := dropBlanks rest
    let found := (angledAddress rest).orElse fun _ => addressIn rest
    found.map fun (address, title, rest) =>
      (Symbol.trim (plainSymbols address), title.map titleText, rest)
  | _ => none

/-! ## Elements -/

/-- The element for a text, an address and a title. Attributes come in the order of their names. -/
def element (image : Bool) (text address : List Symbol) (title : Option (List Symbol)) : Element :=
  let titled :=
    match title with
    | some t => [("title", t)]
    | none => []
  if image then
    .mk "img" (("alt", plainSymbols text) :: ("src", address) :: titled) [] false []
  else .mk "a" (("href", address) :: titled) text false []

/-- The symbols behind the opening bracket of a link or of an image. -/
def opening (image : Bool) (before ss : List Symbol) : Option (List Symbol) :=
  if image then Rule.dropChars ['!', '['] ss
  else if (before.head?).any (Symbol.is '!') then none
  else Rule.dropChars ['['] ss

/-- A text in square brackets with its address in round brackets. -/
def inline (image : Bool) : Rule := fun before ss => do
  let inner ← opening image before ss
  let (text, rest) ← bracketed 0 [] inner
  let (address, title, rest) ← destination rest
  some (.replace (.element (element image text address title)) rest)

/-! ## Targets by name -/

/-- Runs of blanks made single spaces. -/
def joinBlanks (inRun : Bool) : List Char → List Char
  | [] => []
  | c :: cs =>
    if Text.isBlank c then (if inRun then joinBlanks true cs else ' ' :: joinBlanks true cs)
    else c :: joinBlanks false cs

/-- The element for a text and the target of a name; without such a target nothing changes. -/
def toTarget (targets : Targets) (image : Bool) (text name rest : List Symbol) : Step :=
  let target := (Symbol.chars? name).bind fun cs =>
    targets.find? fun t => t.1 == joinBlanks false (Text.lower cs)
  match target with
  | some (_, t) =>
    .replace
      (.element (element image text (Symbol.ofChars t.address) (t.title.map Symbol.ofChars))) rest
  | none => .pass rest

/-- A text in square brackets with the name of its target in square brackets; without a name the
text is the name. -/
def named (targets : Targets) (image : Bool) : Rule := fun before ss => do
  let inner ← opening image before ss
  let (text, rest) ← bracketed 0 [] inner
  let rest := if (rest.head?).any Symbol.isBlank then rest.drop 1 else rest
  let rest ← Rule.dropChars ['['] rest
  let (name, rest) ← Rule.upTo ']' rest
  some (toTarget targets image text (if name.isEmpty then text else name) rest)

/-- A text in square brackets that is the name of its target. -/
def short (targets : Targets) (image : Bool) : Rule := fun before ss => do
  let inner ← opening image before ss
  let (text, rest) ← bracketed 0 [] inner
  some (toTarget targets image text text rest)

end RamlDocs.Markdown.Link
