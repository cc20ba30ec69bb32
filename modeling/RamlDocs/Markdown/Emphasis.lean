import RamlDocs.Markdown.Rule

/-!
# Emphasis

Stars and low lines around a text make it stand out: one of them emphasises, two make it strong,
more do both. Marks of one kind side by side are a run. A run opens emphasis where a text follows
it and closes emphasis where a text stands before it; low lines within a word do neither. Runs are
read from left to right: one that closes is paired with the nearest open one that fits it, mark by
mark from the inside, and the runs opened in between mean nothing.
-/

namespace RamlDocs.Markdown.Emphasis

/-! ## Runs -/

/-- A run: its mark, how many of them were written, the places between which marks still have no
meaning, and the symbols around it. Places count from the start of the text. -/
structure Run where
  mark : Char
  length : Nat
  start : Nat
  stop : Nat
  before : Option Symbol
  behind : Option Symbol

namespace Run

/-- The number of marks without a meaning. -/
def left (r : Run) : Nat := r.stop - r.start

/-- Whether a place at the edge of a text or a blank is there. -/
def isApart (s : Option Symbol) : Bool := s.all Symbol.isBlank

/-- Whether a character of a word is there. -/
def inWord (s : Option Symbol) : Bool := s.any Symbol.isWord

/-- Whether a text can follow the run as its emphasis. -/
def opens (r : Run) : Bool := !isApart r.behind && (r.mark == '*' || !inWord r.before)

/-- Whether a text can stand before the run as its emphasis. -/
def closes (r : Run) : Bool := !isApart r.before && (r.mark == '*' || !inWord r.behind)

/-- Whether runs of two lengths have a kind of emphasis in common: an odd one has a single mark, and
one of two or more a double mark. -/
def sharesKind (m n : Nat) : Bool := (m % 2 == 1 && n % 2 == 1) || (2 ≤ m && 2 ≤ n)

/-- Whether a run that closes can end an open one. One that could open as well does not end a run of
the other simple kind, and does not leave over marks of a run when it has three or more itself. One
that only closes ends the `nearest` open run; further out, a run that might close as well has to
share a kind with it. -/
def fits (closer : Run) (nearest : Bool) (opener : Run) : Bool :=
  if closer.opens then
    let simple := (opener.length == 1 && closer.length == 2) ||
      (opener.length == 2 && closer.length == 1)
    !simple && (closer.length < 3 || opener.left ≤ closer.left)
  else nearest || !opener.closes || sharesKind opener.length closer.length

end Run

/-- The runs of symbols, the first of which is at `place` and has `before` in front. -/
def runs (place : Nat) (before : Option Symbol) : List Symbol → List Run
  | [] => []
  | s :: ss =>
    let later := runs (place + 1) (some s) ss
    match s.char? with
    | some c =>
      if c == '*' || c == '_' then
        let single := ⟨c, 1, place, place + 1, before, ss.head?⟩
        match later with
        | r :: rs =>
          if r.mark == c && r.start == place + 1 then
            { r with length := r.length + 1, start := place, before := before } :: rs
          else single :: r :: rs
        | [] => [single]
      else later
    | none => later

/-! ## Pairs of runs -/

/-- Emphasis that was found: the number of marks on each side, the places of the text between them,
and the places around all of it. -/
structure Span where
  width : Nat
  start : Nat
  first : Nat
  last : Nat
  stop : Nat

/-- The marks that the next emphasis between two runs takes from each: two, except that of three
pairs of marks the innermost one stands alone. -/
def nextWidth (opener closer : Run) : Nat :=
  let pairs := min opener.left closer.left
  if 2 ≤ pairs && pairs != 3 then 2 else 1

/-- Two runs paired from the inside until one of them is used up. -/
def pair : Nat → Run → Run → List Span → Run × Run × List Span
  | 0, opener, closer, spans => (opener, closer, spans)
  | fuel + 1, opener, closer, spans =>
    if opener.left == 0 || closer.left == 0 then (opener, closer, spans)
    else
      let width := nextWidth opener closer
      let span :=
        ⟨width, opener.stop - width, opener.stop, closer.start, closer.start + width⟩
      pair fuel { opener with stop := opener.stop - width }
        { closer with start := closer.start + width } (span :: spans)

/-- The innermost open run that a closing run fits, and those around it. -/
def fitting? (closer : Run) (nearest : Bool) : List Run → Option (Run × List Run)
  | [] => none
  | r :: rs =>
    if r.mark == closer.mark && closer.fits nearest r then some (r, rs)
    else fitting? closer false rs

/-- A closing run paired with open runs, innermost first, until it is used up or fits none. Where a
run that could open as well fits an open run, but not the nearest one of its mark, it ends the
nearest one all the same, as if both had the same length, and is used up. -/
def close : Nat → Run → List Run → List Span → Run × List Run × List Span
  | 0, closer, open_, spans => (closer, open_, spans)
  | fuel + 1, closer, open_, spans =>
    if closer.left == 0 then (closer, open_, spans)
    else
      match fitting? closer true open_, open_.dropWhile (·.mark != closer.mark) with
      | some (opener, outer), nearest :: around =>
        if closer.opens && !closer.fits false nearest then
          let width := min 2 nearest.left
          let span :=
            ⟨width, nearest.stop - width, nearest.stop, closer.start, closer.start + width⟩
          ({ closer with start := closer.stop }, around, span :: spans)
        else
          let (opener, closer, spans) := pair closer.left opener closer spans
          close fuel closer (if opener.left == 0 then outer else opener :: outer) spans
      | _, _ => (closer, open_, spans)

/-- The open runs, innermost first, and the emphasis found so far, after one more run. A run that
closes emphasis and then opens some within an open run of its mark stays, with the marks it closed
by, part of the text that it closed last. -/
def step : List Run × List Span → Run → List Run × List Span
  | (open_, spans), run =>
    let (rest, open_, spans) :=
      if run.closes then close (run.left + 1) run open_ spans else (run, open_, spans)
    if run.opens && rest.left != 0 then
      let spans :=
        match spans with
        | s :: ss =>
          if rest.start != run.start && open_.any (·.mark == run.mark) then
            { s with last := rest.start } :: ss
          else s :: ss
        | [] => []
      (rest :: open_, spans)
    else (open_, spans)

/-- The emphasis in symbols that have `before` in front. -/
def spans (before : Option Symbol) (ss : List Symbol) : List Span :=
  ((runs 0 before ss).foldl step ([], [])).2

/-! ## Elements -/

/-- Of two spans the one that starts first; if they start together, the longer one. -/
def Span.outer (a b : Span) : Span :=
  if b.start < a.start || (b.start == a.start && a.stop < b.stop) then b else a

/-- The span that starts first, with all within it. -/
def outermost? : List Span → Option Span
  | [] => none
  | s :: ss => some (ss.foldl Span.outer s)

/-- The tag for the marks on each side. -/
def Span.tag (s : Span) : String := if s.width == 2 then "strong" else "em"

/-- Symbols, the first of which is at `place`, with elements for the spans among them. -/
def nest : Nat → Nat → List Span → List Symbol → List Symbol
  | 0, _, _, ss => ss
  | _ + 1, _, _, [] => []
  | fuel + 1, place, spans, s :: ss =>
    let all := s :: ss
    match outermost? (spans.filter fun x => x.start == place && x.stop ≤ place + all.length) with
    | some x =>
      let inner := (all.take (x.last - place)).drop (x.first - place)
      let within := spans.filter fun y => x.first ≤ y.start
      .element (.ofText x.tag (nest fuel x.first within inner)) ::
        nest fuel x.stop spans (all.drop (x.stop - place))
    | none => s :: nest fuel (place + 1) spans ss

/-- Symbols with `before` in front and elements for all emphasis. Behind an element the marks that
are left over get a new chance. -/
def markFrom : Nat → Option Symbol → List Symbol → List Symbol
  | 0, _, ss => ss
  | fuel + 1, before, ss =>
    let found := spans before ss
    match outermost? found with
    | none => ss
    | some x =>
      let marked := nest (ss.length + 1) 0 found (ss.take x.stop)
      marked ++ markFrom fuel marked.getLast? (ss.drop x.stop)

/-- Symbols with elements for all emphasis. -/
def mark (ss : List Symbol) : List Symbol := markFrom (ss.length + 1) none ss

end RamlDocs.Markdown.Emphasis
