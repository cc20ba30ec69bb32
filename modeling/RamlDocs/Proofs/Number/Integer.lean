import RamlDocs.Number.Numeral
import RamlDocs.Proofs.Text.Pieces

/-!
# Integers in texts and numbers

Which integer a text or a floating point number is read as, told without the readers. A text spells
an integer if between blanks it has a sign or none and then decimal digits of any script with single
low lines between them, not more than `digitLimit` (`Numeral.readInt_eq_ok_iff`). A floating point
number has the integral part of its absolute value, with its sign, and every one has but infinities
and what is not a number (`Binary64.truncate?_eq_some_iff`).
-/

namespace RamlDocs

namespace Numeral

variable {c : Char} {cs : List Char} {d : Nat} {ds : List Nat}

/-! ## Spelling -/

/-- Decimal digits with single low lines between them, and their values. -/
inductive Grouped : List Char → List Nat → Prop
  | last {c : Char} {d : Nat} (digit : Text.digitValue? c = some d) : Grouped [c] [d]
  | next {c : Char} {d : Nat} {cs : List Char} {ds : List Nat}
      (digit : Text.digitValue? c = some d) (rest : Grouped cs ds) : Grouped (c :: cs) (d :: ds)
  | apart {c : Char} {d : Nat} {cs : List Char} {ds : List Nat}
      (digit : Text.digitValue? c = some d) (rest : Grouped cs ds) :
      Grouped (c :: '_' :: cs) (d :: ds)

/-- A sign or none, and whether it is a minus. -/
inductive Signed : List Char → Bool → Prop
  | none : Signed [] false
  | plus : Signed ['+'] false
  | minus : Signed ['-'] true

/-- The text `s` spells the integer `n`. -/
def Spells (s : String) (n : Int) : Prop :=
  ∃ before sign minus digits values after,
    s.toList = before ++ (sign ++ digits ++ after) ∧
      (∀ c ∈ before, isBlank c = true) ∧ (∀ c ∈ after, isBlank c = true) ∧
      Signed sign minus ∧ Grouped digits values ∧ values.length ≤ digitLimit ∧
      n = if minus then -(ofDigits 10 values : Int) else (ofDigits 10 values : Int)

/-! ## Digits -/

/-- A digit is an ASCII one, or one of the ten that begin with a zero of another script. -/
theorem exists_zero_of_digit (digit : Text.digitValue? c = some d) (other : ¬ c.toNat < 0x80) :
    ∃ z ∈ Text.zeroDigits.toList, d < 10 ∧ c.toNat = z + d := by
  simp only [Text.digitValue?, if_neg other, Option.map_eq_some_iff] at digit
  obtain ⟨z, found, rfl⟩ := digit
  have near := Array.find?_some found
  have mem := Array.mem_of_find?_eq_some found
  simp only [Bool.and_eq_true, decide_eq_true_eq] at near
  exact ⟨z, Array.mem_toList_iff.mpr mem, by omega, by omega⟩

theorem lt_ten_of_digit (digit : Text.digitValue? c = some d) : d < 10 := by
  by_cases ascii : c.toNat < 0x80
  · have each : (Text.digitValue? c).all (· < 10) = true :=
      Text.forall_ascii (P := fun c => (Text.digitValue? c).all (· < 10) = true)
        (by decide +kernel) ascii
    rw [digit] at each
    exact of_decide_eq_true each
  · obtain ⟨_, _, small, _⟩ := exists_zero_of_digit digit ascii
    exact small

/-- In base ten no letter is a digit. -/
theorem digitValueIn?_ten (c : Char) : Text.digitValueIn? 10 c = Text.digitValue? c := by
  by_cases ascii : c.toNat < 0x80
  · exact Text.forall_ascii (P := fun c => Text.digitValueIn? 10 c = Text.digitValue? c)
      (by decide +kernel) ascii
  · show Option.filter _ (if _ then _ else _) = _
    rw [if_neg (by simp [ascii])]
    cases digit : Text.digitValue? c with
    | none => rfl
    | some d => exact Option.filter_eq_some_iff.mpr ⟨rfl, decide_eq_true (lt_ten_of_digit digit)⟩

/-- No digit is a blank. -/
theorem isBlank_of_digit (digit : Text.digitValue? c = some d) : isBlank c = false := by
  by_cases ascii : c.toNat < 0x80
  · have each : (Text.digitValue? c).isSome = true → isBlank c = false :=
      Text.forall_ascii (P := fun c => (Text.digitValue? c).isSome = true → isBlank c = false)
        (by decide +kernel) ascii
    exact each (by rw [digit]; rfl)
  · obtain ⟨z, mem, small, code⟩ := exists_zero_of_digit digit ascii
    have each : ∀ z ∈ Text.zeroDigits.toList, ∀ d < 10, isBlank (Char.ofNat (z + d)) = false := by
      decide +kernel
    have own := each z mem d small
    rwa [← code, Char.ofNat_toNat] at own

/-- What may come behind a digit: nothing, a low line with digits behind it, or more digits. -/
def Follows (cs : List Char) (ds : List Nat) : Prop :=
  (cs = [] ∧ ds = []) ∨ (∃ rest, cs = '_' :: rest ∧ Grouped rest ds) ∨ Grouped cs ds

theorem grouped_cons_iff :
    Grouped (c :: cs) ds ↔
      ∃ d more, Text.digitValue? c = some d ∧ Follows cs more ∧ ds = d :: more := by
  constructor
  · intro grouped
    cases grouped with
    | last digit => exact ⟨_, _, digit, .inl ⟨rfl, rfl⟩, rfl⟩
    | next digit rest => exact ⟨_, _, digit, .inr (.inr rest), rfl⟩
    | apart digit rest => exact ⟨_, _, digit, .inr (.inl ⟨_, rfl, rest⟩), rfl⟩
  · rintro ⟨d, more, digit, ⟨rfl, rfl⟩ | ⟨rest, rfl, grouped⟩ | grouped, rfl⟩
    · exact .last digit
    · exact .apart digit grouped
    · exact .next digit grouped

/-- Both states of the reader of digits: one has to come next, or the digits may end. -/
theorem digits?_eq_some_iff (cs : List Char) :
    (∀ ds, digits? 10 true cs = some ds ↔ Grouped cs ds) ∧
      ∀ ds, digits? 10 false cs = some ds ↔ Follows cs ds := by
  induction cs with
  | nil =>
    constructor
    · intro ds
      exact ⟨fun h => (by cases h), fun h => (by cases h)⟩
    · intro ds
      constructor
      · intro h
        cases h
        exact .inl ⟨rfl, rfl⟩
      · rintro (⟨-, rfl⟩ | ⟨rest, text, -⟩ | grouped)
        · rfl
        · cases text
        · cases grouped
  | cons c cs ih =>
    obtain ⟨expected, open_⟩ := ih
    by_cases line : c = '_'
    · subst line
      have noDigit : Text.digitValue? '_' = none := by decide
      have none_ : ∀ ds, ¬ Grouped ('_' :: cs) ds := by
        intro ds grouped
        obtain ⟨d, _, digit, _⟩ := grouped_cons_iff.mp grouped
        rw [noDigit] at digit
        cases digit
      constructor
      · intro ds
        exact iff_of_false (fun h => by cases h) (none_ ds)
      · intro ds
        refine (expected ds).trans ⟨fun grouped => .inr (.inl ⟨cs, rfl, grouped⟩), ?_⟩
        rintro (⟨text, -⟩ | ⟨rest, text, grouped⟩ | grouped)
        · cases text
        · obtain rfl := (List.cons.inj text).2
          exact grouped
        · exact absurd grouped (none_ ds)
    · have read : ∀ expects, digits? 10 expects (c :: cs) =
          (Text.digitValue? c).bind fun d => (digits? 10 false cs).map (d :: ·) := by
        intro expects
        rw [digits?, digitValueIn?_ten]
        · cases Text.digitValue? c <;> rfl
        · exact fun same => line same
      have grouped : ∀ expects ds,
          digits? 10 expects (c :: cs) = some ds ↔ Grouped (c :: cs) ds := by
        intro expects ds
        rw [read, grouped_cons_iff, Option.bind_eq_some_iff]
        refine exists_congr fun d => ?_
        rw [Option.map_eq_some_iff]
        constructor
        · rintro ⟨digit, more, rest, rfl⟩
          exact ⟨more, digit, (open_ more).mp rest, rfl⟩
        · rintro ⟨more, digit, rest, rfl⟩
          exact ⟨digit, more, (open_ more).mpr rest, rfl⟩
      refine ⟨grouped true, fun ds => (grouped false ds).trans ⟨fun h => .inr (.inr h), ?_⟩⟩
      rintro (⟨text, -⟩ | ⟨rest, text, -⟩ | own)
      · cases text
      · exact absurd (List.cons.inj text).1 line
      · exact own

/-! ## Whole texts -/

theorem dropBaseMark_ten (cs : List Char) : dropBaseMark 10 cs = cs := by
  unfold dropBaseMark
  split
  · rfl
  · rfl

/-- Every text has one sign, which a digit behind it ends. -/
theorem exists_splitSign (cs : List Char) :
    ∃ sign, cs = sign ++ (splitSign cs).2 ∧ Signed sign (splitSign cs).1 := by
  unfold splitSign
  split
  · exact ⟨['-'], rfl, .minus⟩
  · exact ⟨['+'], rfl, .plus⟩
  · exact ⟨[], rfl, .none⟩

theorem splitSign_of_signed {sign : List Char} {minus : Bool} (signed : Signed sign minus)
    (grouped : Grouped cs ds) : splitSign (sign ++ cs) = (minus, cs) := by
  cases signed with
  | plus => rfl
  | minus => rfl
  | none =>
    have first : ∀ c more, cs = c :: more → c ≠ '-' ∧ c ≠ '+' := by
      rintro c more rfl
      obtain ⟨d, _, digit, _⟩ := grouped_cons_iff.mp grouped
      constructor
      · rintro rfl
        cases digit
      · rintro rfl
        cases digit
    rw [List.nil_append, splitSign]
    · intro more text
      exact (first _ _ text).1 rfl
    · intro more text
      exact (first _ _ text).2 rfl

theorem Grouped.isBlank (grouped : Grouped cs ds) : ∀ c ∈ cs, isBlank c = false := by
  induction grouped with
  | last digit => exact List.forall_mem_singleton.mpr (isBlank_of_digit digit)
  | next digit _ ih => exact List.forall_mem_cons.mpr ⟨isBlank_of_digit digit, ih⟩
  | apart digit _ ih =>
    exact List.forall_mem_cons.mpr ⟨isBlank_of_digit digit,
      List.forall_mem_cons.mpr ⟨by decide, ih⟩⟩

theorem Signed.isBlank {sign : List Char} {minus : Bool} (signed : Signed sign minus) :
    ∀ c ∈ sign, isBlank c = false := by
  cases signed with
  | none => exact List.forall_mem_nil _
  | plus => exact List.forall_mem_singleton.mpr (by decide)
  | minus => exact List.forall_mem_singleton.mpr (by decide)

theorem Grouped.ne_nil (grouped : Grouped cs ds) : cs ≠ [] := by
  cases grouped <;> exact List.cons_ne_nil _ _

/-- Reading in base ten, of the sign and the digits that are left when the blanks are gone. -/
theorem readInt_ten (s : String) :
    readInt 10 s =
      match digits? 10 true (splitSign (trim s.toList)).2 with
      | none => .error .malformed
      | some ds =>
        if digitLimit < ds.length then .error (.tooLong ds.length)
        else .ok (if (splitSign (trim s.toList)).1 then -(ofDigits 10 ds : Int)
          else (ofDigits 10 ds : Int)) := by
  unfold readInt
  simp only [dropBaseMark_ten]
  cases digits? 10 true (splitSign (trim s.toList)).2 with
  | none => rfl
  | some ds =>
    simp only [beq_self_eq_true, Bool.true_and, decide_eq_true_eq]

/-- A text is read as an integer in base ten exactly if it spells it. -/
theorem readInt_eq_ok_iff {s : String} {n : Int} : readInt 10 s = .ok n ↔ Spells s n := by
  rw [readInt_ten]
  constructor
  · intro h
    obtain ⟨before, after, hb, ha, text⟩ := Text.exists_dropped isBlank s.toList
    obtain ⟨sign, split, signed⟩ := exists_splitSign (trim s.toList)
    split at h
    · cases h
    · next ds came =>
      split at h
      · cases h
      · next short =>
        cases h
        have grouped := ((digits?_eq_some_iff _).1 ds).mp came
        refine ⟨before, sign, _, _, ds, after, ?_, hb, ha, signed, grouped, by omega, rfl⟩
        rw [← split]
        exact text
  · rintro ⟨before, sign, minus, digits, ds, after, text, hb, ha, signed, grouped, short, rfl⟩
    have solid : ∀ c ∈ sign ++ digits, isBlank c = false := by
      intro c mem
      rcases List.mem_append.mp mem with own | own
      · exact signed.isBlank c own
      · exact grouped.isBlank c own
    have some_ : sign ++ digits ≠ [] := List.append_ne_nil_of_right_ne_nil _ grouped.ne_nil
    have core : trim s.toList = sign ++ digits := by
      rw [text]
      exact Text.dropRightWhile_between hb ha solid some_
    rw [core, splitSign_of_signed signed grouped, ((digits?_eq_some_iff _).1 ds).mpr grouped]
    exact if_neg (by omega)

end Numeral

/-! ## Floating point numbers -/

namespace Binary64

/-- `n` is the integral part of a number: the greatest integer that is not above the absolute value,
with the sign of the number. -/
def HasIntegralPart (x : Binary64) (n : Int) : Prop :=
  ∃ mantissa exponent k, x.magnitude = .finite mantissa exponent ∧
    k * Nat.pow 2 (-exponent).toNat ≤ mantissa * Nat.pow 2 exponent.toNat ∧
    mantissa * Nat.pow 2 exponent.toNat < (k + 1) * Nat.pow 2 (-exponent).toNat ∧
    n = if x.negative then -(k : Int) else (k : Int)

theorem truncate?_eq_some_iff {x : Binary64} {n : Int} :
    x.truncate? = some n ↔ x.HasIntegralPart n := by
  -- for a number `mantissa * 2 ^ exponent` one of the two powers below is one
  have whole : ∀ (mantissa : Nat) (exponent : Int) (k : Nat),
      (if 0 ≤ exponent then mantissa * Nat.pow 2 exponent.toNat
        else mantissa / Nat.pow 2 (-exponent).toNat) = k ↔
        k * Nat.pow 2 (-exponent).toNat ≤ mantissa * Nat.pow 2 exponent.toNat ∧
          mantissa * Nat.pow 2 exponent.toNat < (k + 1) * Nat.pow 2 (-exponent).toNat := by
    intro mantissa exponent k
    by_cases up : 0 ≤ exponent
    · have none_ : Nat.pow 2 (-exponent).toNat = 1 := by
        rw [Int.toNat_of_nonpos (by omega)]
      rw [if_pos up, none_]
      omega
    · have none_ : Nat.pow 2 exponent.toNat = 1 := by
        rw [Int.toNat_of_nonpos (by omega)]
      have pos : 0 < Nat.pow 2 (-exponent).toNat := Nat.pow_pos (by omega)
      rw [if_neg up, none_, Nat.mul_one, ← Nat.le_div_iff_mul_le pos, ← Nat.div_lt_iff_lt_mul pos]
      omega
  unfold truncate? HasIntegralPart
  cases x.magnitude with
  | finite mantissa exponent =>
    constructor
    · intro h
      cases h
      obtain ⟨low, high⟩ := (whole mantissa exponent _).mp rfl
      exact ⟨mantissa, exponent, _, rfl, low, high, rfl⟩
    · rintro ⟨_, _, k, same, low, high, rfl⟩
      cases same
      show some _ = _
      rw [(whole mantissa exponent k).mpr ⟨low, high⟩]
  | infinite =>
    refine iff_of_false (fun h => by cases h) ?_
    rintro ⟨_, _, _, same, _⟩
    cases same
  | nan =>
    refine iff_of_false (fun h => by cases h) ?_
    rintro ⟨_, _, _, same, _⟩
    cases same

end Binary64

end RamlDocs
