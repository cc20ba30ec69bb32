/-!
# Words that resemble each other

Two words resemble each other as far as they share stretches of characters in the same order. The
longest stretch counts first; what stands before it in both words is compared with each other, and
so is what stands behind it. `Text.suggestions` picks the words that a misspelt one was probably
meant to be.
-/

namespace RamlDocs.Text

/-- The length of the longest start that two words share. -/
def commonStart : List Char → List Char → Nat
  | c :: cs, d :: ds => if c = d then commonStart cs ds + 1 else 0
  | _, _ => 0

/-- A stretch that two words share: where it starts in each of them, and its length. -/
structure Stretch where
  left : Nat
  right : Nat
  length : Nat

/-- The longer of two stretches, the first if they are equally long. -/
def Stretch.longer (s t : Stretch) : Stretch := if s.length < t.length then t else s

/-- The stretches that start at each two places of two words, by their places in the first word and
then in the second. -/
def stretches (cs ds : List Char) : List Stretch :=
  (List.range cs.length).flatMap fun i =>
    (List.range ds.length).map fun j => ⟨i, j, commonStart (cs.drop i) (ds.drop j)⟩

/-- The longest stretch that two words share, of several the first one. -/
def longestStretch (cs ds : List Char) : Stretch :=
  (stretches cs ds).foldl Stretch.longer ⟨0, 0, 0⟩

/-- A shared start is no longer than the first word. -/
theorem commonStart_le_length (cs ds : List Char) : commonStart cs ds ≤ cs.length := by
  induction cs generalizing ds with
  | nil => simp [commonStart]
  | cons c cs ih =>
    cases ds with
    | nil => simp [commonStart]
    | cons d ds =>
      simp only [commonStart, List.length_cons]
      split
      · exact Nat.succ_le_succ (ih ds)
      · exact Nat.zero_le _

/-- Each stretch lies within the first word. -/
theorem end_le_of_mem_stretches {cs ds : List Char} {s : Stretch} (h : s ∈ stretches cs ds) :
    s.left + s.length ≤ cs.length := by
  simp only [stretches, List.mem_flatMap, List.mem_map, List.mem_range] at h
  obtain ⟨i, hi, j, _, rfl⟩ := h
  have := commonStart_le_length (cs.drop i) (ds.drop j)
  simp only [List.length_drop] at this
  show i + commonStart (cs.drop i) (ds.drop j) ≤ cs.length
  omega

/-- What holds of a stretch and of all others holds of the longest. -/
theorem foldl_longer {P : Stretch → Prop} (ss : List Stretch) (s : Stretch) (hs : P s)
    (h : ∀ t ∈ ss, P t) : P (ss.foldl Stretch.longer s) := by
  induction ss generalizing s with
  | nil => exact hs
  | cons t ss ih =>
    refine ih _ ?_ fun u hu => h u (List.mem_cons_of_mem _ hu)
    unfold Stretch.longer
    split
    · exact h t List.mem_cons_self
    · exact hs

/-- The longest stretch lies within the first word. -/
theorem longestStretch_end_le (cs ds : List Char) :
    (longestStretch cs ds).left + (longestStretch cs ds).length ≤ cs.length :=
  foldl_longer (P := fun s => s.left + s.length ≤ cs.length) _ _ (Nat.zero_le _)
    fun _ => end_le_of_mem_stretches

/-- How many characters two words share, in stretches taken longest first. -/
def sharedLength (cs ds : List Char) : Nat :=
  let s := longestStretch cs ds
  if s.length = 0 then 0
  else
    sharedLength (cs.take s.left) (ds.take s.right) + s.length +
      sharedLength (cs.drop (s.left + s.length)) (ds.drop (s.right + s.length))
termination_by cs.length
decreasing_by
  all_goals
    have hle : s.left + s.length ≤ cs.length := longestStretch_end_le cs ds
    simp only [List.length_take, List.length_drop, ← show s = longestStretch cs ds from rfl]
    omega

/-- How far a candidate resembles a word: `shared` of the characters of both, `total` in number. -/
structure Likeness where
  candidate : String
  shared : Nat
  total : Nat

/-- The likeness of a candidate and a word. -/
def Likeness.of (word candidate : String) : Likeness :=
  ⟨candidate, 2 * sharedLength candidate.toList word.toList, candidate.length + word.length⟩

/-- Whether at least three fifths of the characters are shared. -/
def Likeness.isClose (l : Likeness) : Bool := decide (3 * l.total ≤ 5 * l.shared)

/-- Whether the first candidate comes before the second: it resembles the word more, or as much and
its name comes later in the alphabet. -/
def Likeness.before (l m : Likeness) : Bool :=
  l.shared * m.total > m.shared * l.total ||
    (l.shared * m.total == m.shared * l.total && decide (m.candidate ≤ l.candidate))

/-- How many suggestions are made. -/
def suggestionLimit : Nat := 3

/-- The candidates that resemble a word most, in alphabetical order. -/
def suggestions (word : String) (candidates : List String) : List String :=
  let close := (candidates.map (Likeness.of word)).filter Likeness.isClose
  let best := (close.mergeSort Likeness.before).take suggestionLimit
  (best.map (·.candidate)).mergeSort fun a b => decide (a ≤ b)

end RamlDocs.Text
