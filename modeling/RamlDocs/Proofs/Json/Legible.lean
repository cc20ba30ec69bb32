import RamlDocs.Json.Writer
import RamlDocs.Proofs.Outcome
import RamlDocs.Text.Style

/-!
# Written views have no control characters

A view that is written has no control character but the line feeds between its elements
(`Json.legible_indented`): what a text of the definition has of them is escaped, also in the names
of entries, and a number is made of digits, signs and points. In particular no style starts in a
written view, so that taking the styles out of it leaves it as it is (`Text.unstyled_of_legible`).
-/

namespace RamlDocs

/-! ## Legible texts -/

namespace Text

/-- Whether a character is no control character, or a line feed. -/
def isLegible (c : Char) : Bool := 0x20 ≤ c.toNat || c == '\n'

/-- A text without control characters other than line feeds. -/
def Legible (s : String) : Prop := ∀ c ∈ s.toList, isLegible c = true

instance (s : String) : Decidable (Legible s) :=
  decidable_of_iff (s.toList.all isLegible = true) List.all_eq_true

variable {s t : String} {cs : List Char}

theorem legible_ofList : Legible (String.ofList cs) ↔ ∀ c ∈ cs, isLegible c = true := by
  rw [Legible, String.toList_ofList]

theorem Legible.append (hs : Legible s) (ht : Legible t) : Legible (s ++ t) := by
  intro c mem
  rw [String.toList_append, List.mem_append] at mem
  exact mem.elim (hs c) (ht c)

theorem legible_joined {sep : String} (hsep : Legible sep) {pieces : List String}
    (h : ∀ p ∈ pieces, Legible p) : Legible (joined sep pieces) := by
  unfold joined
  induction pieces with
  | nil => exact fun c mem => absurd mem (by simp)
  | cons p ps ih =>
    obtain ⟨own, rest⟩ := List.forall_mem_cons.mp h
    cases ps with
    | nil => simpa using own
    | cons q ps =>
      rw [String.intercalate_cons_cons]
      exact (own.append hsep).append (ih rest)

theorem isLegible_of_mem_padded {filler : Char} (n : Nat) (hf : isLegible filler = true)
    (h : ∀ c ∈ cs, isLegible c = true) {c : Char} (mem : c ∈ List.replicate n filler ++ cs) :
    isLegible c = true := by
  rcases List.mem_append.mp mem with filling | own
  · exact (List.mem_replicate.mp filling).2 ▸ hf
  · exact h c own

theorem isLegible_of_isDigit {c : Char} (h : c.isDigit = true) : isLegible c = true := by
  simp only [Char.isDigit, Bool.and_eq_true, decide_eq_true_eq] at h
  have visible : 0x20 ≤ c.toNat := Nat.le_trans (by decide) (UInt32.le_iff_toNat_le.mp h.1)
  simp [isLegible, visible]

theorem isLegible_of_mem_toDigits {n : Nat} {c : Char} (h : c ∈ Nat.toDigits 10 n) :
    isLegible c = true :=
  isLegible_of_isDigit (Nat.isDigit_of_mem_toDigits (by decide) (by decide) h)

theorem isLegible_hexDigit : ∀ n < 16, isLegible (hexDigit n) = true := by decide

theorem isLegible_of_mem_hexDigits {width n : Nat} {c : Char} (h : c ∈ hexDigits width n) :
    isLegible c = true := by
  induction width generalizing n with
  | zero => simp [hexDigits] at h
  | succ width ih =>
    rw [hexDigits, List.mem_append, List.mem_singleton] at h
    rcases h with first | rfl
    · exact ih first
    · exact isLegible_hexDigit _ (Nat.mod_lt _ (by decide))

/-! ## Styles -/

theorem unstyledFrom_of_not_mem (free : styleStart ∉ cs) : unstyledFrom [] cs = cs := by
  induction cs with
  | nil => rfl
  | cons c cs ih =>
    rw [List.mem_cons, not_or] at free
    have other : (c == styleStart) = false := by simpa using Ne.symm free.1
    simp [unstyledFrom, continuesStyle, other, ih free.2]

/-- A legible text has no styles. -/
theorem unstyled_of_legible (h : Legible s) : unstyled s = s := by
  have free : styleStart ∉ s.toList := fun mem => absurd (h _ mem) (by decide)
  rw [unstyled, unstyledFrom_of_not_mem free, String.ofList_toList]

end Text

/-! ## Numbers -/

open Text

namespace Binary64

theorem legible_exponentText (width : Nat) (e : Int) : Legible (exponentText width e) := by
  unfold exponentText
  refine Legible.append ?_ (legible_ofList.mpr fun c mem => ?_)
  · split <;> decide
  · exact isLegible_of_mem_padded _ (by decide) (fun _ => isLegible_of_mem_toDigits) mem

theorem legible_write (layout : Layout) {digits : List Char}
    (h : ∀ c ∈ digits, isLegible c = true) (lead : Int) : Legible (layout.write digits lead) := by
  unfold Layout.write
  split
  · split
    · refine Legible.append (by decide) (legible_ofList.mpr fun c mem => ?_)
      exact isLegible_of_mem_padded _ (by decide) h mem
    · refine Legible.append (Legible.append (legible_ofList.mpr fun c mem => ?_) (by decide)) ?_
      · rcases List.mem_append.mp mem with own | filling
        · exact h c (List.mem_of_mem_take own)
        · exact (List.mem_replicate.mp filling).2 ▸ by decide
      · split
        · decide
        · exact legible_ofList.mpr fun c mem => h c (List.mem_of_mem_drop mem)
  · split
    · decide
    next d rest =>
      obtain ⟨own, more⟩ := List.forall_mem_cons.mp h
      refine Legible.append (legible_ofList.mpr ?_) (legible_exponentText _ _)
      split
      · exact List.forall_mem_singleton.mpr own
      · exact List.forall_mem_cons.mpr ⟨own, List.forall_mem_cons.mpr ⟨by decide, more⟩⟩

theorem legible_text {layout : Layout} (infinity : Legible layout.infinity)
    (nan : Legible layout.nan) (x : Binary64) : Legible (x.text layout) := by
  have sign : Legible (if x.negative then "-" else "") := by split <;> decide
  unfold text
  generalize (if x.negative then "-" else "") = minus at sign ⊢
  cases x.magnitude with
  | finite m q =>
    simp only
    split
    · exact sign.append (by decide)
    · exact sign.append (legible_write _ (fun _ => isLegible_of_mem_toDigits) _)
  | infinite =>
    simp only
    split
    · decide
    · exact sign.append infinity
  | nan => exact nan

end Binary64

theorem legible_toString_nat (n : Nat) : Legible (toString n) := by
  rw [Nat.toString_eq_ofList_toDigits]
  exact legible_ofList.mpr fun _ => isLegible_of_mem_toDigits

theorem legible_toString_int (n : Int) : Legible (toString n) := by
  cases n with
  | ofNat n => exact legible_toString_nat n
  | negSucc n => exact Legible.append (s := "-") (by decide) (legible_toString_nat (n + 1))

/-! ## Values -/

namespace Json

theorem isLegible_of_mem_plainChar {c d : Char} (h : d ∈ plainChar c) : isLegible d = true := by
  unfold plainChar at h
  split at h
  next e escape =>
    have letter : isLegible e = true := by
      unfold shortEscape? at escape
      split at escape <;> cases escape <;> decide
    rcases List.mem_cons.mp h with rfl | last
    · decide
    · exact List.mem_singleton.mp last ▸ letter
  · split at h
    · rcases List.mem_cons.mp h with rfl | h
      · decide
      · rcases List.mem_cons.mp h with rfl | digit
        · decide
        · exact isLegible_of_mem_hexDigits digit
    next visible =>
      rw [List.mem_singleton.mp h]
      simp [isLegible, Nat.le_of_not_lt visible]

theorem legible_quotedBy_plainChar (s : String) : Legible (quotedBy plainChar s) := by
  refine legible_ofList.mpr fun c mem => ?_
  rw [List.mem_append, List.mem_cons, List.mem_flatMap, List.mem_singleton] at mem
  rcases mem with (rfl | ⟨d, -, own⟩) | rfl
  · decide
  · exact isLegible_of_mem_plainChar own
  · decide

theorem legible_block {left right : String} (hl : Legible left) (hr : Legible right)
    {indent depth : Nat} {elements : List String} (h : ∀ e ∈ elements, Legible e) :
    Legible (block indent depth left right elements) := by
  have start (d : Nat) : Legible ("\n" ++ String.ofList (List.replicate (indent * d) ' ')) := by
    refine Legible.append (by decide) (legible_ofList.mpr fun c mem => ?_)
    exact List.eq_of_mem_replicate mem ▸ by decide
  unfold block
  split
  · exact hl.append hr
  · have separator := Legible.append (s := ",") (by decide) (start (depth + 1))
    exact (((hl.append (start _)).append (legible_joined separator h)).append (start _)).append hr

theorem legible_indentedKey {k : Key} {text : String} (h : indentedKey k = .ok text) :
    Legible text := by
  cases k with
  | bytes bs =>
    obtain ⟨s, -, rfl⟩ := map_eq_ok.mp h
    exact legible_quotedBy_plainChar s
  | text s =>
    cases h
    exact legible_quotedBy_plainChar s
  | moment t =>
    cases h
    exact legible_quotedBy_plainChar _
  | null =>
    cases h
    decide
  | bool b =>
    cases h
    cases b <;> decide
  | int n =>
    cases h
    exact legible_toString_int n
  | float x =>
    cases h
    exact Binary64.legible_text (by decide) (by decide) x

/-- Elements that are legible as far as they came to texts make a legible block. -/
theorem legible_map_block {left right : String} (hl : Legible left) (hr : Legible right)
    {indent depth : Nat} {elements : Encoded (List String)}
    (each : ∀ ts, elements = .ok ts → ∀ t ∈ ts, Legible t) {text : String}
    (h : elements.map (block indent depth left right) = .ok text) : Legible text := by
  obtain ⟨ts, made, rfl⟩ := map_eq_ok.mp h
  exact legible_block hl hr (each ts made)

variable {order : SetOrder}

mutual

/-- A written value has no control characters but line feeds. -/
theorem legible_indented (indent depth : Nat) :
    ∀ (v : Value) {text : String}, indented order indent depth v = .ok text → Legible text
  | .null, _, h => by
    cases h
    decide
  | .bool b, _, h => by
    cases h
    cases b <;> decide
  | .int n, _, h => by
    cases h
    exact legible_toString_int n
  | .float x, _, h => by
    cases h
    exact Binary64.legible_text (by decide) (by decide) x
  | .text s, _, h => by
    cases h
    exact legible_quotedBy_plainChar s
  | .bytes bs, _, h => by
    obtain ⟨s, -, rfl⟩ := map_eq_ok.mp h
    exact legible_quotedBy_plainChar s
  | .moment t, _, h => by
    cases h
    exact legible_quotedBy_plainChar _
  | .list vs, _, h =>
    legible_map_block (by decide) (by decide) (fun _ => legible_indentedItems indent depth vs) h
  | .tuple vs, _, h =>
    legible_map_block (by decide) (by decide) (fun _ => legible_indentedItems indent depth vs) h
  | .set ks, _, h => by
    refine legible_map_block (by decide) (by decide) (fun ts made t mem => ?_) h
    obtain ⟨k, -, written⟩ := exists_of_mem_mapM made mem
    exact legible_indentedKey written
  | .map m, _, h =>
    legible_map_block (by decide) (by decide) (fun _ => legible_indentedEntries indent depth m) h

theorem legible_indentedItems (indent depth : Nat) :
    ∀ (vs : List Value) {ts : List String}, indentedItems order indent depth vs = .ok ts →
      ∀ t ∈ ts, Legible t
  | [], _, h => by
    cases h
    exact List.forall_mem_nil _
  | v :: vs, _, h => by
    obtain ⟨first, made, h⟩ := bind_eq_ok.mp h
    obtain ⟨rest, others, h⟩ := bind_eq_ok.mp h
    cases h
    exact List.forall_mem_cons.mpr
      ⟨legible_indented indent (depth + 1) v made, legible_indentedItems indent depth vs others⟩

theorem legible_indentedEntries (indent depth : Nat) :
    ∀ (m : List (Key × Value)) {ts : List String},
      indentedEntries order indent depth m = .ok ts → ∀ t ∈ ts, Legible t
  | [], _, h => by
    cases h
    exact List.forall_mem_nil _
  | (k, v) :: m, _, h => by
    obtain ⟨name, -, h⟩ := bind_eq_ok.mp h
    obtain ⟨value, made, h⟩ := bind_eq_ok.mp h
    obtain ⟨rest, others, h⟩ := bind_eq_ok.mp h
    cases h
    have named := Legible.append (legible_quotedBy_plainChar name) (t := ": ") (by decide)
    exact List.forall_mem_cons.mpr
      ⟨named.append (legible_indented indent (depth + 1) v made),
        legible_indentedEntries indent depth m others⟩

end

end Json

end RamlDocs
