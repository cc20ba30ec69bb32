import RamlDocs.Text.Digit

/-!
# Dates and times

Timestamps of a file: a day, or a day with a time and possibly a distance from universal time.
`Calendar.read?` recognises the spellings; `Calendar.check` refuses days and times that do not
exist; `Timestamp.text` writes them in the one form that texts of a definition have. Timestamps
that know their distance from universal time are the same if they name the same instant
(`Timestamp.same`).
-/

namespace RamlDocs.Calendar

/-- A time of day with microseconds and, if known, the distance from universal time in minutes. -/
structure Time where
  hour : Nat
  minute : Nat
  second : Nat
  micro : Nat
  offset : Option Int
  deriving DecidableEq, Repr

/-- A day, or a day and a time. -/
structure Timestamp where
  year : Nat
  month : Nat
  day : Nat
  time : Option Time
  deriving DecidableEq, Repr

/-- Which part of a timestamp does not exist. -/
inductive Fault where
  | year (n : Nat)
  | month
  | day
  | hour
  | minute
  | second
  | offset (minutes : Int)
  deriving DecidableEq, Repr

/-- Whether a year has a 29th of February. -/
def isLeap (year : Nat) : Bool := year % 4 == 0 && (year % 100 != 0 || year % 400 == 0)

/-- The number of days of a month. -/
def daysIn (year month : Nat) : Nat :=
  if month == 2 then if isLeap year then 29 else 28
  else if month == 4 || month == 6 || month == 9 || month == 11 then 30
  else 31

/-- The first part of a timestamp that does not exist, if any. The distance from universal time
has to be known before the day is looked at. -/
def check (t : Timestamp) : Except Fault Timestamp :=
  let offset : Int := (t.time.bind (·.offset)).getD 0
  if 1440 ≤ offset.natAbs then .error (.offset offset)
  else if t.year == 0 then .error (.year t.year)
  else if t.month == 0 || 12 < t.month then .error .month
  else if t.day == 0 || daysIn t.year t.month < t.day then .error .day
  else
    match t.time with
    | none => .ok t
    | some time =>
      if 23 < time.hour then .error .hour
      else if 59 < time.minute then .error .minute
      else if 59 < time.second then .error .second
      else .ok t

/-- Exactly `count` digits at the start, as a number. -/
def digits? : Nat → Nat → List Char → Option (Nat × List Char)
  | 0, n, cs => some (n, cs)
  | count + 1, n, c :: cs => if c.isDigit then digits? count (n * 10 + (c.toNat - 48)) cs else none
  | _ + 1, _, [] => none

/-- One or two digits at the start, as many as there are. -/
def upToTwo? (cs : List Char) : Option (Nat × List Char) :=
  (digits? 2 0 cs).orElse fun _ => digits? 1 0 cs

/-- The given character at the start. -/
def expect? (c : Char) : List Char → Option (List Char)
  | d :: cs => if c = d then some cs else none
  | [] => none

/-- Blanks within a line. -/
def isGap (c : Char) : Bool := c == ' ' || c == '\t'

/-- A distance from universal time in minutes: the letter Z or a sign with hours and perhaps
minutes; nothing at all at the end of the text. -/
def offset? (cs : List Char) : Option (Option Int) :=
  if cs.isEmpty then some none
  else
    match cs.dropWhile isGap with
    | ['Z'] => some (some 0)
    | sign :: rest =>
      if sign == '+' || sign == '-' then do
        let (hours, rest) ← upToTwo? rest
        let minutes ←
          match rest with
          | [] => some 0
          | ':' :: rest => (digits? 2 0 rest).bind fun r => if r.2.isEmpty then some r.1 else none
          | _ => none
        let n : Int := (hours * 60 + minutes : Nat)
        some (some (if sign == '-' then -n else n))
      else none
    | [] => none

/-- The digits of a fraction of a second as microseconds. -/
def micros (digits : List Char) : Nat :=
  let six := (digits ++ List.replicate 6 '0').take 6
  six.foldl (fun n c => n * 10 + (c.toNat - 48)) 0

/-- The time after a day. -/
def time? (cs : List Char) : Option Time := do
  let rest ←
    match cs with
    | c :: rest =>
      if c == 'T' || c == 't' then some rest
      else if isGap c then some (rest.dropWhile isGap)
      else none
    | [] => none
  let (hour, rest) ← upToTwo? rest
  let rest ← expect? ':' rest
  let (minute, rest) ← digits? 2 0 rest
  let rest ← expect? ':' rest
  let (second, rest) ← digits? 2 0 rest
  let (fraction, rest) :=
    match rest with
    | '.' :: more => more.span Char.isDigit
    | more => ([], more)
  let offset ← offset? rest
  some ⟨hour, minute, second, micros fraction, offset⟩

/-- The timestamp that a text spells. -/
def read? (cs : List Char) : Option Timestamp := do
  let (year, rest) ← digits? 4 0 cs
  let rest ← expect? '-' rest
  let (month, rest) ← upToTwo? rest
  let rest ← expect? '-' rest
  let (day, rest) ← upToTwo? rest
  if rest.isEmpty then some ⟨year, month, day, none⟩
  else
    let time ← time? rest
    some ⟨year, month, day, some time⟩

/-- Whether a plain text is read as a timestamp: a day by itself needs two digits each for month
and day. -/
def isTimestamp (cs : List Char) : Bool :=
  match read? cs with
  | none => false
  | some t => t.time.isSome || cs.length == 10

/-- `n` in decimal with at least `width` digits. -/
def padded (width n : Nat) : String :=
  let digits := Nat.toDigits 10 n
  String.ofList (List.replicate (width - digits.length) '0' ++ digits)

/-- A distance from universal time. -/
def offsetText (minutes : Int) : String :=
  (if minutes < 0 then "-" else "+") ++ padded 2 (minutes.natAbs / 60) ++ ":" ++
    padded 2 (minutes.natAbs % 60)

/-- The kind of a timestamp: a day, or a day with a time. -/
def Timestamp.kind (t : Timestamp) : String := if t.time.isSome then "datetime" else "date"

/-- A timestamp with the given separator between day and time. -/
def Timestamp.textWith (separator : String) (t : Timestamp) : String :=
  padded 4 t.year ++ "-" ++ padded 2 t.month ++ "-" ++ padded 2 t.day ++
    match t.time with
    | none => ""
    | some time =>
      separator ++ padded 2 time.hour ++ ":" ++ padded 2 time.minute ++ ":" ++
        padded 2 time.second ++
        (if time.micro == 0 then "" else "." ++ padded 6 time.micro) ++
        ((time.offset.map offsetText).getD "")

/-- A timestamp as a value of a definition. -/
def Timestamp.text (t : Timestamp) : String := t.textWith "T"

/-- A timestamp without its distance from universal time. -/
def Timestamp.withoutOffset (t : Timestamp) : Timestamp :=
  { t with time := t.time.map fun time => { time with offset := none } }

/-- A timestamp as a name. -/
def Timestamp.name (t : Timestamp) : String := t.textWith " "

/-- A length of time as it is written in messages: whole days and the seconds after them. -/
def durationText (minutes : Int) : String :=
  let days := minutes / 1440
  let seconds := minutes % 1440 * 60
  let parts := (if days == 0 then [] else ["days=" ++ toString days]) ++
    (if seconds == 0 then [] else ["seconds=" ++ toString seconds])
  "datetime.timedelta(" ++ (if parts.isEmpty then "0" else ", ".intercalate parts) ++ ")"

/-- A distance from universal time as it is written between brackets. -/
def zoneText (minutes : Int) : String :=
  if minutes == 0 then "datetime.timezone.utc" else "datetime.timezone(" ++ durationText minutes ++ ")"

/-- The numbers of a time of day; seconds and microseconds only if they are not zero. -/
def Time.numbers (t : Time) : List Nat :=
  [t.hour, t.minute] ++
    (if t.micro != 0 then [t.second, t.micro] else if t.second != 0 then [t.second] else [])

/-- A timestamp as it is written inside other values. -/
def Timestamp.quoted (t : Timestamp) : String :=
  let day := [t.year, t.month, t.day]
  let written (ns : List Nat) : String := ", ".intercalate (ns.map toString)
  match t.time with
  | none => "datetime.date(" ++ written day ++ ")"
  | some time =>
    "datetime.datetime(" ++ written (day ++ time.numbers) ++
      ((time.offset.map fun minutes => ", tzinfo=" ++ zoneText minutes).getD "") ++ ")"

/-! ## Instants -/

/-- The days before the first of January of a year. -/
def daysBeforeYear (year : Nat) : Nat :=
  let past := year - 1
  past * 365 + past / 4 - past / 100 + past / 400

/-- The days of a year before a month. -/
def daysBeforeMonth (year month : Nat) : Nat :=
  (List.range (month - 1)).foldl (fun days m => days + daysIn year (m + 1)) 0

/-- What tells timestamps apart: the instant in microseconds of universal time if it is known, else
what is written. -/
inductive Identity where
  | instant (micros : Int)
  | written (t : Timestamp)
  deriving DecidableEq, Repr

/-- The identity of a timestamp. -/
def Timestamp.identity (t : Timestamp) : Identity :=
  match t.time with
  | none => .written t
  | some time =>
    match time.offset with
    | none => .written t
    | some offset =>
      let days := daysBeforeYear t.year + daysBeforeMonth t.year t.month + t.day
      let minutes : Int := ((days * 24 + time.hour) * 60 + time.minute : Nat) - offset
      .instant ((minutes * 60 + time.second) * 1000000 + time.micro)

/-- Whether two timestamps are the same point in time. -/
def Timestamp.same (t u : Timestamp) : Bool := t.identity == u.identity

/-- The wording of a fault. -/
def Fault.message : Fault → String
  | .year n => s!"year {n} is out of range"
  | .month => "month must be in 1..12"
  | .day => "day is out of range for month"
  | .hour => "hour must be in 0..23"
  | .minute => "minute must be in 0..59"
  | .second => "second must be in 0..59"
  | .offset n =>
    "offset must be a timedelta strictly between -timedelta(hours=24) and timedelta(hours=24), " ++
      "not " ++ durationText n ++ "."

end RamlDocs.Calendar
