import RamlDocs.Markdown.Block
import RamlDocs.Markdown.NamedCharacter

/-!
# Rules within lines

A rule looks at one place of a text. It may put one symbol in the place of some, or see that some
have no meaning under it, or not apply. This module holds the rules for code, escapes, addresses
between angle brackets, line breaks, HTML and entities.
-/

namespace RamlDocs.Markdown

/-- What a rule makes of the symbols at a place: a symbol for some of them with those behind, or
those behind some that stay as they are. -/
inductive Step where
  | replace (s : Symbol) (rest : List Symbol)
  | pass (rest : List Symbol)

/-- A rule: what it makes of symbols, given the symbols before them, the last one first. -/
abbrev Rule := List Symbol → List Symbol → Option Step

namespace Rule

/-- The characters and other symbols before the first one that is the character `c`, and those
behind it. -/
def upTo (c : Char) (ss : List Symbol) : Option (List Symbol × List Symbol) :=
  let taken := ss.takeWhile fun s => !s.is c
  match ss.drop taken.length with
  | _ :: rest => some (taken, rest)
  | [] => none

/-- The characters `cs` dropped from the start. -/
def dropChars : List Char → List Symbol → Option (List Symbol)
  | [], ss => some ss
  | c :: cs, s :: ss => if s.is c then dropChars cs ss else none
  | _ :: _, [] => none

/-! ## Code -/

/-- The content of a span of code up to exactly `count` backticks. -/
def codeUntil (count : Nat) (content : List Symbol) :
    List Symbol → Option (List Symbol × List Symbol)
  | [] => none
  | s :: ss =>
    if (content.head?).any (fun last => !last.is '\x60') &&
        ((s :: ss).takeWhile (Symbol.is '\x60')).length == count then
      some (content.reverse, (s :: ss).drop count)
    else codeUntil count (s :: content) ss

/-- A span of code behind `count` backticks or fewer, the greatest number first. -/
def codeSpan (ss : List Symbol) : Nat → Option (List Symbol × List Symbol)
  | 0 => none
  | count + 1 =>
    match codeUntil (count + 1) [] (ss.drop (count + 1)) with
    | some r => some r
    | none => codeSpan ss count

/-- The greatest number of backticks side by side. -/
def longestTicks (current longest : Nat) : List Symbol → Nat
  | [] => longest
  | s :: ss =>
    if s.is '\x60' then longestTicks (current + 1) (max longest (current + 1)) ss
    else longestTicks 0 longest ss

/-- Symbols with the characters that HTML needs for itself replaced. -/
def codeSymbols (ss : List Symbol) : List Symbol :=
  ss.flatMap fun s =>
    match s with
    | .char c => Symbol.ofChars (Block.codeText [c])
    | s => [s]

/-- Code between backticks, and pairs of backslashes before backticks. Backticks that none of the
same number close mean nothing where more of them follow, together with as many symbols behind
them; elsewhere fewer of them may open the code. -/
def code : Rule := fun before ss =>
  if (before.head?).any (Symbol.is '\\') then none
  else
    let slashes := (ss.takeWhile (Symbol.is '\\')).length
    if slashes != 0 then
      let rest := ss.drop slashes
      if slashes % 2 == 0 && (rest.head?).any (Symbol.is '\x60') then
        some (.replace (.held (List.replicate (slashes / 2) (.escaped '\\'))) rest)
      else none
    else
      let ticks := (ss.takeWhile (Symbol.is '\x60')).length
      if ticks == 0 then none
      else
        let found :=
          match codeUntil ticks [] (ss.drop ticks) with
          | some r => some r
          | none => if ticks < longestTicks 0 0 (ss.drop ticks) then none else codeSpan ss ticks
        match found with
        | some (content, rest) =>
          let text := codeSymbols (Symbol.trim content)
          some (.replace (.element (.mk "code" [] text true [])) rest)
        | none => some (.pass (ss.drop (2 * ticks)))

/-! ## Escapes -/

/-- Characters that a backslash takes the meaning from. -/
def escapable : List Char :=
  ['\\', '\x60', '*', '_', '{', '}', '[', ']', '(', ')', '>', '#', '+', '-', '.', '!']

/-- A backslash and the character behind it. -/
def escape : Rule := fun _ ss =>
  match ss with
  | .char '\\' :: s :: rest =>
    match s with
    | .char c => if escapable.contains c then some (.replace (.escaped c) rest) else some (.pass rest)
    | _ => some (.pass rest)
  | _ => none

/-! ## Between angle brackets -/

/-- Whether symbols start with the scheme of an address: a letter, more letters, digits, plus signs,
points or hyphens, a colon and two slashes. -/
def startsAddress (ss : List Symbol) : Bool :=
  let scheme := ss.takeWhile fun s => (s.char?).any fun c =>
    c.isAlphanum || c == '+' || c == '.' || c == '-'
  (scheme.head?).any (fun s => (s.char?).any Char.isAlpha) &&
    (dropChars "://".toList (ss.drop scheme.length)).isSome

/-- The symbols between angle brackets, without angle brackets among them. -/
def angled (ss : List Symbol) : Option (List Symbol × List Symbol) :=
  match ss with
  | .char '<' :: ss =>
    match upTo '>' ss with
    | some (inner, rest) => if inner.any (Symbol.is '<') then none else some (inner, rest)
    | none => none
  | _ => none

/-- An address between angle brackets, which becomes a link to itself. -/
def autolink : Rule := fun _ ss =>
  match angled ss with
  | some (inner, rest) =>
    if startsAddress inner then
      some (.replace (.element (.mk "a" [("href", plainSymbols inner)] inner true [])) rest)
    else none
  | none => none

/-- Whether symbols spell a mail address: something before the last at sign, without exclamation
marks, and something behind it. -/
def isMail (inner : List Symbol) : Bool :=
  let host := inner.reverse.takeWhile fun s => !s.is '@'
  let user := inner.take (inner.length - host.length - 1)
  host.length < inner.length && !host.isEmpty && !user.isEmpty &&
    !inner.any (Symbol.is ' ') && !user.any (Symbol.is '!')

/-- A character of a mail address by its number. -/
def numbered (c : Char) : List Symbol :=
  .html ['&'] :: Symbol.ofChars (('#' :: Nat.toDigits 10 c.toNat) ++ [';'])

/-- A character of a mail address by its name, if it has one, else by its number. -/
def disguised (c : Char) : List Symbol :=
  match namedCharacters.find? fun e => e.1 == c.toNat with
  | some (_, name) => .html ['&'] :: Symbol.ofChars (name.toList ++ [';'])
  | none => numbered c

/-- Symbols with every character disguised. -/
def disguisedText (write : Char → List Symbol) (ss : List Symbol) : List Symbol :=
  (plainSymbols ss).flatMap fun s =>
    match s with
    | .char c => write c
    | .escaped c => write c
    | s => [s]

/-- A mail address between angle brackets, which becomes a link in disguise. -/
def automail : Rule := fun _ ss =>
  match angled ss with
  | some (inner, rest) =>
    if isMail inner then
      let address := (dropChars "mailto:".toList inner).getD inner
      let href := disguisedText numbered (Symbol.ofChars "mailto:".toList ++ address)
      some (.replace (.element (.mk "a" [("href", href)] (disguisedText disguised address) true []))
        rest)
    else none
  | none => none

/-! ## Line breaks, HTML and entities -/

/-- Two spaces at the end of a line, which break it. -/
def lineBreak : Rule := fun _ ss =>
  (dropChars [' ', ' ', '\n'] ss).map fun rest => .replace (.element (.blank "br")) rest

/-- A comment behind its first two characters, up to its end. -/
def comment (content : List Symbol) : List Symbol → Option (List Symbol × List Symbol)
  | [] => none
  | s :: ss =>
    match dropChars "-->".toList (s :: ss) with
    | some rest => some (content.reverse ++ Symbol.ofChars "-->".toList, rest)
    | none =>
      if (dropChars "<!--".toList (s :: ss)).isSome then none else comment (s :: content) ss

/-- Whether a symbol is a quotation mark. -/
def isQuote (s : Symbol) : Bool := s.is '\x27' || s.is '\x22'

/-- The rest of a tag up to its end, with what follows. Angle brackets stand only between quotes, and
every quote is closed. -/
def tagEnd (quote : Option Char) (content : List Symbol) :
    List Symbol → Option (List Symbol × List Symbol)
  | [] => none
  | s :: ss =>
    match quote with
    | some q => tagEnd (if s.is q then none else quote) (s :: content) ss
    | none =>
      if s.is '>' then some ((s :: content).reverse, ss)
      else if s.is '<' then none
      else tagEnd (if isQuote s then s.char? else none) (s :: content) ss

/-- A tag behind its opening bracket, up to its end: a name, without quotes and at signs, and behind
a space whatever else. -/
def tagText (ss : List Symbol) : Option (List Symbol × List Symbol) :=
  let name := ss.takeWhile fun s => !(s.is ' ' || s.is '>' || s.is '<' || s.is '@' || isQuote s)
  let letters :=
    match name with
    | .char '/' :: ss => ss
    | ss => ss
  let rest := ss.drop name.length
  if (letters.head?).any (fun s => (s.char?).any Char.isAlpha) &&
      (rest.head?).any (fun s => s.is ' ' || s.is '>') then
    (tagEnd none [] rest).map fun (more, rest) => (name ++ more, rest)
  else none

/-- Symbols of HTML as its text. Escapes get their backslashes back. -/
def htmlText (write : Element → List Char) : List Symbol → List Char
  | [] => []
  | s :: ss =>
    let text :=
      match s with
      | .char c => [c]
      | .escaped c => ['\\', c]
      | .html text => text
      | .held symbols => '\\' :: (plainSymbols symbols).flatMap fun
        | .char c => [c]
        | .escaped c => [c]
        | .html text => text
        | _ => []
      | .element e => write e
    text ++ htmlText write ss

/-- A tag or a comment, which is HTML already. -/
def html (write : Element → List Char) : Rule := fun _ ss =>
  match ss with
  | .char '<' :: rest =>
    let mark := Symbol.ofChars "!--".toList
    let found : Option (List Symbol × List Symbol) :=
      match dropChars "!--".toList rest with
      | some inner => (comment [] inner).map fun (text, rest) => (mark ++ text, rest)
      | none => tagText rest
    found.map fun (inner, rest) => .replace (.html ('<' :: htmlText write inner)) rest
  | _ => none

/-- Whether a text names a character: by its decimal or hexadecimal number, or by a word. -/
def isEntityName (cs : List Char) : Bool :=
  match cs with
  | '#' :: 'x' :: ds =>
    !ds.isEmpty && ds.all fun c => c.isDigit || ('a' ≤ c && c ≤ 'f') || ('A' ≤ c && c ≤ 'F')
  | '#' :: ds => !ds.isEmpty && ds.all Char.isDigit
  | cs => !cs.isEmpty && cs.all Char.isAlphanum

/-- The name of an entity behind its ampersand, with what follows its semicolon. -/
def entityName? (ss : List Symbol) : Option (List Char × List Symbol) :=
  match upTo ';' ss with
  | some (inner, rest) =>
    match inner.mapM Symbol.char? with
    | some cs => if isEntityName cs then some (cs, rest) else none
    | none => none
  | none => none

/-- An entity, which is HTML already. -/
def entity : Rule := fun _ ss =>
  match ss with
  | .char '&' :: rest =>
    (entityName? rest).map fun (name, rest) => .replace (.html ('&' :: name ++ [';'])) rest
  | _ => none

/-- Stars or low lines that stand between blanks mean nothing. -/
def loneMark : Rule := fun before ss =>
  let apart (s : Option Symbol) : Bool :=
    match s with
    | none => true
    | some s => s.isBlank
  match ss with
  | .char c :: _ =>
    let marks := ss.takeWhile (Symbol.is c)
    let rest := ss.drop marks.length
    if (c == '*' || c == '_') && apart before.head? && marks.length ≤ 3 && apart rest.head? then
      some (.replace (.held marks) rest)
    else none
  | _ => none

end Rule

end RamlDocs.Markdown
