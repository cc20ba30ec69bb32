import Mathlib.Data.List.Basic
import Mathlib.Data.List.TakeDrop
import RamlDocs.Json.Reader
import RamlDocs.Json.Writer
import RamlDocs.Proofs.Outcome
import RamlDocs.Proofs.Value.Plain

/-!
# JSON that is written reads back

What `Json.compact` writes of a value, `Json.read` reads as that value (`read_compact`): texts with
all their escapes, the pairs of escapes for characters beyond the basic plane among them, integers
that are short enough to be written, and lists and mappings of these in their order. Floating point
numbers are left out.

Each kind of value has a lemma that takes the rest of the text as a parameter, so that the next item
or member can be read from there. `ReadsBack` is what such a lemma says, and what the induction over
values carries: how the text begins, and what reading it comes to with enough fuel.
-/

namespace RamlDocs.Json

open Text (hexDigit hexDigits)

/-! ## Texts -/

theorem hexValue?_hexDigit : ∀ n < 16, hexValue? (hexDigit n) = some n := by decide

/-- Four digits that something follows are a number. -/
theorem hexFour?_hexDigits {n : Nat} (h : n < 0x10000) (c : Char) (rest : List Char) :
    hexFour? (hexDigits 4 n ++ c :: rest) = some (n, c :: rest) := by
  have digit (k : Nat) : hexValue? (hexDigit (k % 16)) = some (k % 16) :=
    hexValue?_hexDigit _ (Nat.mod_lt _ (by decide))
  simp only [hexDigits, List.nil_append, List.cons_append, hexFour?, digit]
  congr 2
  omega

theorem escaped?_of_shortEscape? {c e : Char} (h : shortEscape? c = some e) :
    escaped? e = some c ∧ e ≠ 'u' := by
  unfold shortEscape? at h
  split at h <;> cases h <;> decide

theorem shortEscape?_eq_none {c : Char} (h : shortEscape? c = none) : c ≠ '\x22' ∧ c ≠ '\\' := by
  constructor <;> rintro rfl <;> cases h

/-- The characters are numbered up to the surrogates and from behind them on. -/
theorem toNat_valid (c : Char) : c.toNat < 0xd800 ∨ 0xe000 ≤ c.toNat ∧ c.toNat < 0x110000 := by
  rcases c.valid with low | ⟨high, bound⟩
  · exact .inl low
  · exact .inr ⟨high, bound⟩

variable {start acc cs rest : List Char} {fuel : Nat}

/-- A character that stands for itself. -/
theorem readChars_plain {c : Char} (quote : c ≠ '\x22') (slash : c ≠ '\\')
    (visible : 0x20 ≤ c.toNat) :
    readChars start (fuel + 1) acc (c :: cs) = readChars start fuel (c :: acc) cs := by
  rw [readChars.eq_def]
  simp only
  rw [if_neg (by simpa using quote), if_neg (by simpa using slash),
    if_neg (Nat.not_lt_of_le visible)]

/-- A character with an escape of one letter. -/
theorem readChars_short {c e : Char} (h : shortEscape? c = some e) :
    readChars start (fuel + 1) acc ('\\' :: e :: cs) = readChars start fuel (c :: acc) cs := by
  obtain ⟨escape, other⟩ := escaped?_of_shortEscape? h
  rw [readChars.eq_def]
  simp only
  rw [if_neg (by decide), if_pos (by decide)]
  rw [escape]

/-- A character of the basic plane that is written by its number. -/
theorem readChars_unit {c d : Char} (basic : c.toNat < 0x10000) :
    readChars start (fuel + 1) acc (unitEscape c.toNat ++ d :: cs) =
      readChars start fuel (c :: acc) (d :: cs) := by
  have single : ¬ (0xd800 ≤ c.toNat ∧ c.toNat < 0xdc00) := by
    have := toNat_valid c
    omega
  have self : unitChar c.toNat = c := by
    have := toNat_valid c
    rw [unitChar, if_neg (by omega), Char.ofNat_toNat]
  rw [unitEscape, List.cons_append, List.cons_append, readChars, if_neg (by decide),
    if_pos (by decide)]
  simp only [hexFour?_hexDigits basic, if_neg single, self]

/-- A character beyond the basic plane, which is written as a pair. -/
theorem readChars_pair {c d : Char} (beyond : 0x10000 ≤ c.toNat) :
    readChars start (fuel + 1) acc (unitEscape (0xd800 + (c.toNat - 0x10000) / 0x400) ++
        unitEscape (0xdc00 + (c.toNat - 0x10000) % 0x400) ++ d :: cs) =
      readChars start fuel (c :: acc) (d :: cs) := by
  have bound : c.toNat < 0x110000 := by
    have := toNat_valid c
    omega
  generalize low_ : 0xdc00 + (c.toNat - 0x10000) % 0x400 = low
  generalize high_ : 0xd800 + (c.toNat - 0x10000) / 0x400 = high
  have first : 0xd800 ≤ high ∧ high < 0xdc00 := by omega
  have second : 0xdc00 ≤ low ∧ low < 0xe000 := by omega
  have point : 0x10000 + (high - 0xd800) * 0x400 + (low - 0xdc00) = c.toNat := by omega
  have follows : 5 ≤ (hexDigits 4 low ++ d :: cs).length := by
    simp [hexDigits]
  simp only [unitEscape, List.cons_append, List.append_assoc]
  rw [readChars, if_neg (by decide), if_pos (by decide)]
  simp only [hexFour?_hexDigits (show high < 0x10000 by omega), if_pos first, if_pos follows,
    hexFour?_hexDigits (show low < 0x10000 by omega), if_pos second, point, Char.ofNat_toNat]

/-- One character with something after it. -/
theorem readChars_asciiChar (c d : Char) :
    readChars start (fuel + 1) acc (asciiChar c ++ d :: cs) =
      readChars start fuel (c :: acc) (d :: cs) := by
  unfold asciiChar
  split
  next e short => exact readChars_short short
  next none_ =>
    obtain ⟨quote, slash⟩ := shortEscape?_eq_none none_
    simp only
    split
    next visible =>
      simp only [Bool.and_eq_true, decide_eq_true_eq] at visible
      exact readChars_plain quote slash visible.1
    next =>
      split
      next basic => exact readChars_unit basic
      next beyond => exact readChars_pair (Nat.le_of_not_lt beyond)

/-- All characters of a text up to its closing quote. -/
theorem readChars_flatMap (s : List Char) (enough : s.length < fuel) :
    readChars start fuel acc (s.flatMap asciiChar ++ '\x22' :: rest) =
      .ok (String.ofList (acc.reverse ++ s), rest) := by
  induction s generalizing fuel acc with
  | nil =>
    obtain ⟨fuel, rfl⟩ := Nat.exists_eq_add_one_of_ne_zero (Nat.ne_zero_of_lt enough)
    rw [List.flatMap_nil, List.nil_append, readChars.eq_def]
    simp only
    rw [if_pos (by decide), List.append_nil]
  | cons c s ih =>
    obtain ⟨fuel, rfl⟩ := Nat.exists_eq_add_one_of_ne_zero (Nat.ne_zero_of_lt enough)
    obtain ⟨d, cs, more⟩ : ∃ d cs, s.flatMap asciiChar ++ '\x22' :: rest = d :: cs :=
      List.exists_cons_of_ne_nil (by simp)
    rw [List.flatMap_cons, List.append_assoc, more, readChars_asciiChar, ← more,
      ih (Nat.lt_of_succ_lt_succ enough), List.reverse_cons, List.append_assoc,
      List.singleton_append]

theorem asciiChar_ne_nil (c : Char) : asciiChar c ≠ [] := by
  unfold asciiChar
  split
  · exact List.cons_ne_nil _ _
  · simp only
    split
    · exact List.cons_ne_nil _ _
    · split <;> exact List.cons_ne_nil _ _

theorem length_le_flatMap_asciiChar (s : List Char) :
    s.length ≤ (s.flatMap asciiChar).length := by
  induction s with
  | nil => exact Nat.le_refl _
  | cons c s ih =>
    have own := List.length_pos_iff.mpr (asciiChar_ne_nil c)
    rw [List.flatMap_cons, List.length_append, List.length_cons]
    omega

/-- A text between quotes reads back, whatever follows it. -/
theorem readText_quotedBy (s : String) (rest : List Char) :
    readText ((quotedBy asciiChar s).toList ++ rest) = .ok (s, rest) := by
  have enough := length_le_flatMap_asciiChar s.toList
  rw [readText, quotedBy, String.toList_ofList, List.cons_append, List.cons_append,
    List.append_assoc, List.drop_one, List.tail_cons, List.singleton_append]
  have fuel : s.toList.length <
      ('\x22' :: (s.toList.flatMap asciiChar ++ '\x22' :: rest)).length + 1 := by
    simp only [List.length_cons, List.length_append]
    omega
  rw [readChars_flatMap s.toList fuel, List.reverse_nil, List.nil_append, String.ofList_toList]

/-! ## Integers -/

theorem digitValue?_of_isDigit {c : Char} (h : c.isDigit = true) :
    Text.digitValue? c = some (c.toNat - 48) := by
  have ascii : c.toNat < 0x80 := by
    simp only [Char.isDigit, Bool.and_eq_true, decide_eq_true_eq] at h
    exact Nat.lt_of_le_of_lt (UInt32.le_iff_toNat_le.mp h.2) (by decide)
  simp only [Text.digitValue?, if_pos ascii, if_pos h]

theorem filterMap_digitValue? {ds : List Char} (h : ∀ c ∈ ds, c.isDigit = true) :
    ds.filterMap Text.digitValue? = ds.map fun c => c.toNat - 48 := by
  rw [← List.filterMap_eq_map]
  exact List.filterMap_congr fun c mem => digitValue?_of_isDigit (h c mem)

/-- The digits of a number denote it. -/
theorem ofDigitChars_toDigits (n : Nat) : Numeral.ofDigitChars (Nat.toDigits 10 n) = n := by
  have digits : ∀ c ∈ Nat.toDigits 10 n, c.isDigit = true := fun c =>
    Nat.isDigit_of_mem_toDigits (by decide) (by decide)
  have sum : ∀ (cs : List Char) (init : Nat),
      (cs.map fun c => c.toNat - 48).foldl (fun n d => n * 10 + d) init =
        Nat.ofDigitChars 10 cs init := by
    intro cs
    induction cs with
    | nil => exact fun _ => rfl
    | cons c cs ih =>
      intro init
      rw [List.map_cons, List.foldl_cons, ih, Nat.ofDigitChars_cons, Nat.mul_comm]
      rfl
  rw [Numeral.ofDigitChars, filterMap_digitValue? digits, Numeral.ofDigits, sum,
    Nat.ofDigitChars_ten_toDigits]

/-- What can follow a value: nothing, or a sign that separates or closes. -/
def Closed (rest : List Char) : Prop := ∀ c ∈ rest.head?, c = ',' ∨ c = ']' ∨ c = '\x7d'

theorem span_of_closed {ds : List Char} (digits : ∀ c ∈ ds, c.isDigit = true)
    (closed : Closed rest) : (ds ++ rest).span Char.isDigit = (ds, rest) := by
  have none_ : rest.takeWhile Char.isDigit = [] ∧ rest.dropWhile Char.isDigit = rest := by
    cases rest with
    | nil => exact ⟨rfl, rfl⟩
    | cons c rest =>
      have other : c.isDigit = false := by
        rcases closed c rfl with rfl | rfl | rfl <;> rfl
      simp [other]
  rw [List.span_eq_takeWhile_dropWhile, List.takeWhile_append_of_pos digits,
    List.dropWhile_append_of_pos digits, none_.1, none_.2, List.append_nil]

/-- No number but zero begins with the digit zero. -/
theorem exists_leading_digit {n : Nat} (h : n ≠ 0) :
    ∃ c ds, Nat.toDigits 10 n = c :: ds ∧ c.isDigit = true ∧ c ≠ '0' := by
  induction n using Nat.strongRecOn with
  | ind n ih =>
    rw [Nat.toDigits_eq_if (by decide)]
    split
    next small =>
      have digit : ∀ k < 10, k ≠ 0 → (Nat.digitChar k).isDigit = true ∧ k.digitChar ≠ '0' := by
        decide
      exact ⟨_, [], rfl, digit n small h⟩
    next large =>
      obtain ⟨c, ds, first, leading⟩ := ih (n / 10) (by omega) (by omega)
      exact ⟨c, ds ++ [(n % 10).digitChar], by rw [first]; rfl, leading⟩

theorem spanWhole_toDigits (n : Nat) (closed : Closed rest) :
    spanWhole (Nat.toDigits 10 n ++ rest) = some (Nat.toDigits 10 n, rest) := by
  by_cases zero : n = 0
  · rw [zero]
    rfl
  · obtain ⟨c, ds, first, digit, other⟩ := exists_leading_digit zero
    have all : ∀ d ∈ c :: ds, d.isDigit = true := by
      intro d mem
      rw [← first] at mem
      exact Nat.isDigit_of_mem_toDigits (by decide) (by decide) mem
    have whole := span_of_closed all closed
    rw [List.cons_append] at whole
    rw [first, List.cons_append, spanWhole]
    · rw [if_pos digit, whole]
    · exact other

theorem spanFraction_of_closed (closed : Closed rest) : spanFraction rest = none := by
  cases rest with
  | nil => rfl
  | cons c rest => rcases closed c rfl with rfl | rfl | rfl <;> rfl

theorem spanExponent_of_closed (closed : Closed rest) : spanExponent rest = none := by
  cases rest with
  | nil => rfl
  | cons c rest => rcases closed c rfl with rfl | rfl | rfl <;> rfl

theorem length_toDigits_of_isShort {n : Int} (short : Numeral.isShort n = true) :
    (Nat.toDigits 10 n.natAbs).length ≤ Numeral.digitLimit := by
  have below : n.natAbs < Numeral.bound := of_decide_eq_true short
  have positive : 0 < Numeral.digitLimit := by decide
  unfold Numeral.bound at below
  -- with the limit in sight the power would be computed
  generalize Numeral.digitLimit = limit at below positive ⊢
  exact (Nat.length_toDigits_le_iff (by decide) positive).mpr below

/-- The text of an integer: its digits, after a sign if it is negative. -/
theorem toList_toString (n : Int) :
    (toString n).toList =
      (if n < 0 then ['-'] else []) ++ Nat.toDigits 10 n.natAbs := by
  have digits (k : Nat) : (toString k).toList = Nat.toDigits 10 k := by
    rw [Nat.toString_eq_ofList_toDigits, String.toList_ofList]
  cases n with
  | ofNat n => exact digits n
  | negSucc n =>
    rw [if_pos (Int.negSucc_lt_zero n), List.singleton_append]
    exact (String.toList_append (s := "-")).trans (congrArg ('-' :: ·) (digits (n + 1)))

/-- An integer reads back, if what follows is no part of a number. -/
theorem readNumber_toString {n : Int} (short : Numeral.isShort n = true)
    (closed : Closed rest) :
    readNumber (some Numeral.digitLimit) ((toString n).toList ++ rest) = .ok (.int n, rest) := by
  have fits : decide (Numeral.digitLimit < (Nat.toDigits 10 n.natAbs).length) = false :=
    decide_eq_false (Nat.not_lt_of_le (length_toDigits_of_isShort short))
  have value : (if decide (n < 0) = true then -(n.natAbs : Int) else n.natAbs) = n := by
    by_cases negative : n < 0
    · rw [decide_eq_true negative, if_pos rfl]
      omega
    · rw [decide_eq_false negative, if_neg Bool.false_ne_true]
      omega
  unfold readNumber
  split
  next minus body unsigned =>
    have parts : (minus, body) = (decide (n < 0), Nat.toDigits 10 n.natAbs ++ rest) := by
      rw [← unsigned, toList_toString]
      by_cases negative : n < 0
      · simp only [negative, if_true, decide_true, List.cons_append, List.nil_append]
      · obtain ⟨c, ds, digits⟩ := List.exists_cons_of_ne_nil
          (Nat.toDigits_ne_nil (b := 10) (n := n.natAbs))
        have other : c ≠ '-' := by
          have digit : c.isDigit = true :=
            Nat.isDigit_of_mem_toDigits (by decide) (by decide) (digits ▸ List.mem_cons_self)
          rintro rfl
          cases digit
        simp only [negative, if_false, decide_false, List.nil_append, digits, List.cons_append]
        split
        next same => exact absurd (List.cons.inj same).1 other
        next => rfl
    cases parts
    simp only [spanWhole_toDigits _ closed, spanFraction_of_closed closed,
      spanExponent_of_closed closed, Option.any_some, fits, ofDigitChars_toDigits, value,
      Bool.false_eq_true, if_false]

/-! ## Values -/

/-- Whether a value can begin with a character. -/
def opens (c : Char) : Bool := c.isDigit || ['-', '\x22', 'n', 't', 'f', '[', '\x7b'].contains c

theorem isBlank_of_opens {c : Char} (h : opens c = true) : isBlank c = false := by
  refine Bool.eq_false_iff.mpr fun blank => ?_
  simp only [isBlank, Bool.or_eq_true, beq_iff_eq] at blank
  rcases blank with ((rfl | rfl) | rfl) | rfl <;> cases h

theorem skipBlanks_of_solid {c : Char} (solid : isBlank c = false) (cs : List Char) :
    skipBlanks (c :: cs) = c :: cs :=
  List.dropWhile_cons_of_neg (by simp [solid])

theorem skipBlanks_of_opens {c : Char} (h : opens c = true) (cs : List Char) :
    skipBlanks (c :: cs) = c :: cs :=
  skipBlanks_of_solid (isBlank_of_opens h) cs

/-- The text of a value begins like a value, and from it the reader comes back to the value and to
what follows, if it has fuel for every character and one more. -/
structure ReadsBack (v : Value) : Prop where
  begins : ∃ c cs, (compact v).toList = c :: cs ∧ opens c = true
  reads : ∀ {fuel : Nat} {rest : List Char}, (compact v).toList.length ≤ fuel → Closed rest →
    readValue (some Numeral.digitLimit) (fuel + 1) ((compact v).toList ++ rest) = .ok (v, rest)

theorem readsBack_null : ReadsBack .null where
  begins := ⟨'n', ['u', 'l', 'l'], rfl, rfl⟩
  reads {fuel rest} _ _ := by
    change readValue _ (fuel + 1) ('n' :: 'u' :: 'l' :: 'l' :: rest) = _
    rw [readValue]

theorem readsBack_bool (b : Bool) : ReadsBack (.bool b) where
  begins := by cases b <;> exact ⟨_, _, rfl, rfl⟩
  reads {fuel rest} _ _ := by
    cases b with
    | true =>
      change readValue _ (fuel + 1) ('t' :: 'r' :: 'u' :: 'e' :: rest) = _
      rw [readValue]
    | false =>
      change readValue _ (fuel + 1) ('f' :: 'a' :: 'l' :: 's' :: 'e' :: rest) = _
      rw [readValue]

theorem toList_quotedBy (s : String) (rest : List Char) :
    (quotedBy asciiChar s).toList ++ rest =
      '\x22' :: (s.toList.flatMap asciiChar ++ '\x22' :: rest) := by
  simp [quotedBy]

theorem readsBack_text (s : String) : ReadsBack (.text s) where
  begins := ⟨'\x22', s.toList.flatMap asciiChar ++ ['\x22'], by simp [compact, quotedBy], rfl⟩
  reads {fuel rest} _ _ := by
    rw [compact, toList_quotedBy, readValue, ← toList_quotedBy, readText_quotedBy]
    rfl

/-- The text of an integer begins with a digit, or with a sign and a digit. -/
theorem exists_begin_toString (n : Int) :
    ∃ c cs, (toString n).toList = c :: cs ∧
      (c.isDigit = true ∨ c = '-' ∧ ∃ d ds, cs = d :: ds ∧ d.isDigit = true) := by
  obtain ⟨d, ds, digits⟩ := List.exists_cons_of_ne_nil
    (Nat.toDigits_ne_nil (b := 10) (n := n.natAbs))
  have digit : d.isDigit = true :=
    Nat.isDigit_of_mem_toDigits (by decide) (by decide) (digits ▸ List.mem_cons_self)
  rw [toList_toString, digits]
  split
  · exact ⟨'-', d :: ds, rfl, .inr ⟨rfl, d, ds, rfl, digit⟩⟩
  · exact ⟨d, ds, rfl, .inl digit⟩

/-- A digit, or a sign and a digit, is the begin of a number. -/
theorem readValue_eq_readNumber {limit : Option Nat} {c : Char}
    (first : c.isDigit = true ∨ c = '-' ∧ ∃ d ds, cs = d :: ds ∧ d.isDigit = true) :
    readValue limit (fuel + 1) (c :: cs) = readNumber limit (c :: cs) := by
  rcases first with digit | ⟨rfl, d, ds, rfl, digit⟩
  · rw [readValue]
    all_goals
      intro rest same
      cases same
      cases digit
  · rw [readValue]
    all_goals
      intro rest same
      cases same
    cases digit

theorem readsBack_int {n : Int} (short : Numeral.isShort n = true) : ReadsBack (.int n) where
  begins := by
    obtain ⟨c, cs, text, first⟩ := exists_begin_toString n
    rw [compact]
    refine ⟨c, cs, text, ?_⟩
    rcases first with digit | ⟨rfl, -⟩
    · rw [opens, digit, Bool.true_or]
    · rfl
  reads {fuel rest} _ closed := by
    obtain ⟨c, cs, text, first⟩ := exists_begin_toString n
    have read := readNumber_toString short closed
    rw [compact]
    rw [text, List.cons_append] at read ⊢
    rw [readValue_eq_readNumber, read]
    refine first.imp_right ?_
    rintro ⟨rfl, d, ds, rfl, digit⟩
    exact ⟨rfl, d, ds ++ rest, rfl, digit⟩

/-! ## Items and entries -/

theorem toList_joined_cons_cons (p q : String) (ps : List String) :
    (Text.joined ", " (p :: q :: ps)).toList =
      p.toList ++ ',' :: ' ' :: (Text.joined ", " (q :: ps)).toList := by
  rw [Text.joined, String.intercalate_cons_cons, String.toList_append, String.toList_append,
    List.append_assoc]
  rfl

theorem toList_joined_singleton (p : String) : (Text.joined ", " [p]).toList = p.toList := by
  simp [Text.joined]

/-- Pieces begin as the first of them. -/
theorem exists_toList_joined (p : String) (ps : List String) :
    ∃ more, (Text.joined ", " (p :: ps)).toList = p.toList ++ more := by
  cases ps with
  | nil => exact ⟨[], by rw [toList_joined_singleton, List.append_nil]⟩
  | cons q ps => exact ⟨_, toList_joined_cons_cons p q ps⟩

/-- The space between two pieces is passed over. -/
theorem skipBlanks_joined {p : String} {c : Char} (begins : p.toList = c :: cs)
    (opening : opens c = true) (ps : List String) (rest : List Char) :
    skipBlanks (' ' :: ((Text.joined ", " (p :: ps)).toList ++ rest)) =
      (Text.joined ", " (p :: ps)).toList ++ rest := by
  obtain ⟨more, whole⟩ := exists_toList_joined p ps
  rw [whole, begins]
  exact (List.dropWhile_cons_of_pos rfl).trans (skipBlanks_of_opens opening _)

theorem closed_cons {c : Char} (h : c = ',' ∨ c = ']' ∨ c = '\x7d') (rest : List Char) :
    Closed (c :: rest) := by
  rintro d ⟨⟩
  exact h

/-- The last item. -/
theorem readItems_last {v : Value} {acc : List Value} (h : ReadsBack v)
    (enough : (compact v).toList.length ≤ fuel) (rest : List Char) :
    readItems (some Numeral.digitLimit) (fuel + 2) acc ((compact v).toList ++ ']' :: rest) =
      .ok (.list (acc.reverse ++ [v]), rest) := by
  rw [readItems, h.reads enough (closed_cons (by decide) rest), ok_bind]
  change Except.ok (Value.list (v :: acc).reverse, rest) = _
  rw [List.reverse_cons]

/-- An item that another follows. -/
theorem readItems_next {v : Value} {acc : List Value} (h : ReadsBack v)
    (enough : (compact v).toList.length ≤ fuel) (rest : List Char) :
    readItems (some Numeral.digitLimit) (fuel + 2) acc ((compact v).toList ++ ',' :: rest) =
      readItems (some Numeral.digitLimit) (fuel + 1) (v :: acc) (skipBlanks rest) := by
  rw [readItems, h.reads enough (closed_cons (by decide) rest), ok_bind]
  rfl

/-- The items of a list, up to the bracket that closes it. -/
theorem readItems_compactItems {v : Value} {vs acc : List Value} {rest : List Char}
    (each : ∀ w ∈ v :: vs, ReadsBack w)
    (enough : (Text.joined ", " (compactItems (v :: vs))).toList.length + 2 ≤ fuel) :
    readItems (some Numeral.digitLimit) fuel acc
        ((Text.joined ", " (compactItems (v :: vs))).toList ++ ']' :: rest) =
      .ok (.list (acc.reverse ++ v :: vs), rest) := by
  obtain ⟨fuel, rfl⟩ : ∃ k, fuel = k + 2 := ⟨fuel - 2, by omega⟩
  induction vs generalizing v acc fuel with
  | nil =>
    have own := each v List.mem_cons_self
    simp only [compactItems, toList_joined_singleton] at enough ⊢
    exact readItems_last own (Nat.le_of_add_le_add_right enough) rest
  | cons w vs ih =>
    obtain ⟨own, others⟩ := List.forall_mem_cons.mp each
    have next := others w List.mem_cons_self
    obtain ⟨c, cs, begins, opening⟩ := (others w List.mem_cons_self).begins
    rw [compactItems, compactItems, toList_joined_cons_cons] at enough ⊢
    rw [List.length_append, List.length_cons, List.length_cons] at enough
    rw [List.append_assoc, List.cons_append, readItems_next own (by omega), List.cons_append,
      skipBlanks_joined begins opening]
    obtain ⟨fuel, rfl⟩ : ∃ k, fuel = k + 1 := ⟨fuel - 1, by omega⟩
    rw [← compactItems] at enough ⊢
    rw [ih others fuel (by omega), List.reverse_cons, List.append_assoc, List.singleton_append]

/-- A name, and the value behind it. -/
theorem toList_member (s : String) (v : Value) (rest : List Char) :
    (quotedBy asciiChar s ++ ": " ++ compact v).toList ++ rest =
      (quotedBy asciiChar s).toList ++ ':' :: ' ' :: ((compact v).toList ++ rest) := by
  rw [String.toList_append, String.toList_append, List.append_assoc, List.append_assoc]
  rfl

theorem skipBlanks_of_readsBack {v : Value} (h : ReadsBack v) (rest : List Char) :
    skipBlanks (' ' :: ((compact v).toList ++ rest)) = (compact v).toList ++ rest := by
  obtain ⟨c, cs, begins, opening⟩ := h.begins
  have joined := skipBlanks_joined begins opening [] rest
  rwa [toList_joined_singleton] at joined

/-- One member: its value is set under its name, and what follows decides how it goes on. -/
theorem readMembers_member {v : Value} {c : Char} (acc : Mapping) (s : String) (h : ReadsBack v)
    (enough : (compact v).toList.length ≤ fuel) (sign : c = ',' ∨ c = '\x7d')
    (rest : List Char) :
    readMembers (some Numeral.digitLimit) (fuel + 2) acc
        ((quotedBy asciiChar s ++ ": " ++ compact v).toList ++ c :: rest) =
      if c = ',' then readMembers (some Numeral.digitLimit) (fuel + 1) (acc.set s v)
        (skipBlanks rest)
      else .ok (.map (acc.set s v), rest) := by
  rw [toList_member, toList_quotedBy, readMembers, ← toList_quotedBy, readText_quotedBy, ok_bind]
  simp only [skipBlanks_of_solid (c := ':') rfl]
  have closed : Closed (c :: rest) := closed_cons (sign.imp_right .inr) rest
  rw [skipBlanks_of_readsBack h, h.reads enough closed, ok_bind]
  rcases sign with rfl | rfl <;> rfl

theorem exists_begin_member (s : String) (v : Value) :
    ∃ cs, (quotedBy asciiChar s ++ ": " ++ compact v).toList = '\x22' :: cs := by
  rw [String.toList_append, String.toList_append, List.append_assoc, toList_quotedBy]
  exact ⟨_, rfl⟩

/-- The members of an object, up to the brace that closes it. -/
theorem readMembers_compactEntries {e : Key × Value} {m acc : Mapping} {rest : List Char}
    (names : ∀ f ∈ e :: m, ∃ s, f.1 = .text s) (each : ∀ f ∈ e :: m, ReadsBack f.2)
    (enough : (Text.joined ", " (compactEntries (e :: m))).toList.length + 2 ≤ fuel) :
    readMembers (some Numeral.digitLimit) fuel acc
        ((Text.joined ", " (compactEntries (e :: m))).toList ++ '\x7d' :: rest) =
      .ok (.map (acc.overlay (e :: m)), rest) := by
  obtain ⟨fuel, rfl⟩ : ∃ k, fuel = k + 2 := ⟨fuel - 2, by omega⟩
  induction m generalizing e acc fuel with
  | nil =>
    obtain ⟨k, v⟩ := e
    obtain ⟨s, rfl⟩ := names _ List.mem_cons_self
    have own : ReadsBack v := each _ List.mem_cons_self
    rw [compactEntries, compactEntries, toList_joined_singleton, scalarName] at enough ⊢
    rw [String.toList_append, List.length_append] at enough
    rw [readMembers_member acc s own (by omega) (.inr rfl), if_neg (by decide)]
    rfl
  | cons f m ih =>
    obtain ⟨k, v⟩ := e
    obtain ⟨⟨s, rfl⟩, otherNames⟩ := List.forall_mem_cons.mp names
    have own : ReadsBack v := each _ List.mem_cons_self
    have others := (List.forall_mem_cons.mp each).2
    obtain ⟨l, w⟩ := f
    obtain ⟨cs, begins⟩ := exists_begin_member (scalarName .json "null" l) w
    rw [compactEntries, compactEntries, toList_joined_cons_cons] at enough ⊢
    rw [List.length_append, List.length_cons, List.length_cons, String.toList_append,
      List.length_append] at enough
    rw [scalarName, List.append_assoc, List.cons_append,
      readMembers_member acc s own (by omega) (.inl rfl), if_pos rfl, List.cons_append,
      skipBlanks_joined begins rfl]
    obtain ⟨fuel, rfl⟩ : ∃ k, fuel = k + 1 := ⟨fuel - 1, by omega⟩
    rw [← compactEntries] at enough ⊢
    rw [ih otherNames others fuel (by omega)]
    rfl

/-! ## Lists, mappings and all values -/

theorem readsBack_list {vs : List Value} (each : ∀ v ∈ vs, ReadsBack v) :
    ReadsBack (.list vs) where
  begins := ⟨'[', (Text.joined ", " (compactItems vs) ++ "]").toList,
    by rw [compact, String.append_assoc, String.toList_append]; rfl, rfl⟩
  reads {fuel rest} enough _ := by
    have text : (compact (.list vs)).toList ++ rest =
        '[' :: ((Text.joined ", " (compactItems vs)).toList ++ ']' :: rest) := by
      rw [compact, String.toList_append, String.toList_append, List.append_assoc,
        List.append_assoc]
      rfl
    have length := congrArg List.length text
    rw [text]
    cases vs with
    | nil => rfl
    | cons v vs =>
      obtain ⟨c, cs, begins, opening⟩ := (each v List.mem_cons_self).begins
      obtain ⟨more, whole⟩ := exists_toList_joined (compact v) (compactItems vs)
      have first : (Text.joined ", " (compactItems (v :: vs))).toList ++ ']' :: rest =
          c :: (cs ++ more ++ ']' :: rest) := by
        rw [compactItems, whole, begins]
        rfl
      rw [readValue, first, skipBlanks_of_opens opening]
      split
      next same =>
        cases same
        cases opening
      next =>
        rw [← first]
        refine readItems_compactItems each ?_
        simp only [List.length_append, List.length_cons] at length
        omega

theorem readsBack_map {m : Mapping} (distinct : m.Distinct)
    (names : ∀ e ∈ m, ∃ s, e.1 = .text s) (each : ∀ e ∈ m, ReadsBack e.2) :
    ReadsBack (.map m) where
  begins := ⟨'\x7b', (Text.joined ", " (compactEntries m) ++ "\x7d").toList,
    by rw [compact, String.append_assoc, String.toList_append]; rfl, rfl⟩
  reads {fuel rest} enough _ := by
    have text : (compact (.map m)).toList ++ rest =
        '\x7b' :: ((Text.joined ", " (compactEntries m)).toList ++ '\x7d' :: rest) := by
      rw [compact, String.toList_append, String.toList_append, List.append_assoc,
        List.append_assoc]
      rfl
    have length := congrArg List.length text
    rw [text]
    cases m with
    | nil => rfl
    | cons e m =>
      obtain ⟨k, v⟩ := e
      obtain ⟨cs, begins⟩ := exists_begin_member (scalarName .json "null" k) v
      obtain ⟨more, whole⟩ := exists_toList_joined
        (quotedBy asciiChar (scalarName .json "null" k) ++ ": " ++ compact v) (compactEntries m)
      have first : (Text.joined ", " (compactEntries ((k, v) :: m))).toList ++ '\x7d' :: rest =
          '\x22' :: (cs ++ more ++ '\x7d' :: rest) := by
        rw [compactEntries, whole, begins]
        rfl
      rw [readValue, first, skipBlanks_of_opens rfl]
      split
      next same => cases same
      next =>
        rw [← first]
        refine (readMembers_compactEntries names each ?_).trans ?_
        · simp only [List.length_append, List.length_cons] at length
          omega
        · rw [Mapping.overlay_of_distinct distinct, List.nil_append]

/-- Texts for keys; and of the scalars null, booleans, texts and integers that can be written. -/
def exact : Vocabulary where
  key k := k.text?.isSome
  scalar
    | .null => true
    | .bool _ => true
    | .int n => Numeral.isShort n
    | .text _ => true
    | _ => false
  null := rfl

theorem readsBack_of_within {v : Value} (h : v.within exact = true) : ReadsBack v := by
  refine Value.within_induction ?_ ?_ ?_ v h
  · intro v leaf scalar
    cases v with
    | null => exact readsBack_null
    | bool b => exact readsBack_bool b
    | int n => exact readsBack_int (by simpa only [exact] using scalar)
    | text s => exact readsBack_text s
    | list vs => cases leaf
    | map m => cases leaf
    | _ => cases scalar
  · exact fun vs => readsBack_list
  · intro m within each
    obtain ⟨distinct, all⟩ := entriesWithin_iff.mp within
    exact readsBack_map distinct (fun e mem => exists_text_of_textual (all e mem).1) each

/-- What is written reads back. -/
theorem read_compact {v : Value} (h : v.within exact = true) : read (compact v) = .ok v := by
  have back := readsBack_of_within h
  obtain ⟨c, cs, begins, opening⟩ := back.begins
  have value : readValue (some Numeral.digitLimit) (2 * (compact v).toList.length + 2)
      ((compact v).toList ++ []) = .ok (v, []) := back.reads (by omega) (by rintro d ⟨⟩)
  rw [List.append_nil, begins] at value
  rw [read, begins, readWith]
  · rw [skipBlanks_of_opens opening, value]
    rfl
  · rintro rest same
    cases same
    cases opening

end RamlDocs.Json
