import Mathlib.Data.List.Forall2
import RamlDocs.Logged

/-!
# Opening computations

What is known of the parts of a computation that came to a value. Notes play no part: the outcome of
a bind is the bind of outcomes, so both kinds of computation open by the same law.
-/

namespace RamlDocs

variable {ε α β : Type}

theorem ok_bind (a : α) (f : α → Except ε β) : (Except.ok a >>= f) = f a := rfl

theorem error_bind (e : ε) (f : α → Except ε β) :
    (Except.error e >>= f) = (Except.error e : Except ε β) := rfl

theorem map_bind {γ : Type} (x : Except ε α) (g : α → β) (f : β → Except ε γ) :
    x.map g >>= f = x >>= fun a => f (g a) := by
  cases x <;> rfl

theorem bind_map {γ : Type} (x : Except ε α) (f : α → Except ε β) (g : β → γ) :
    (x >>= f).map g = x >>= fun a => (f a).map g := by
  cases x <;> rfl

/-- Only values that a computation comes to matter to what follows it. -/
theorem bind_congr_ok {x : Except ε α} {f g : α → Except ε β}
    (alike : ∀ a, x = .ok a → f a = g a) : x >>= f = x >>= g := by
  cases x with
  | error e => rfl
  | ok a => exact alike a rfl

/-- What follows a computation may end in a fault where another would not. -/
theorem bind_eq_error_or {x : Except ε α} {f g : α → Except ε β} {e : ε}
    (each : ∀ a, x = .ok a → f a = .error e ∨ f a = g a) :
    x >>= f = .error e ∨ x >>= f = x >>= g := by
  cases x with
  | error e => exact .inr rfl
  | ok a => exact each a rfl

theorem bind_eq_ok {x : Except ε α} {f : α → Except ε β} {b : β} :
    x >>= f = .ok b ↔ ∃ a, x = .ok a ∧ f a = .ok b := by
  cases x with
  | error e => simp [bind, Except.bind]
  | ok a => simp [bind, Except.bind]

theorem map_eq_ok {x : Except ε α} {f : α → β} {b : β} :
    x.map f = .ok b ↔ ∃ a, x = .ok a ∧ f a = b := by
  cases x <;> simp [Except.map]

theorem mapError_eq_ok {ζ : Type} {x : Except ε α} {f : ε → ζ} {a : α} :
    x.mapError f = .ok a ↔ x = .ok a := by
  cases x <;> simp [Except.mapError]

/-- A computation of which something could be told came to a value. -/
theorem exists_ok_of_toOption {x : Except ε α} {f : α → β} {b : β}
    (h : x.toOption.map f = some b) : ∃ a, x = .ok a ∧ f a = b := by
  cases x with
  | error e => cases h
  | ok a => exact ⟨a, rfl, Option.some.inj h⟩

/-- The fault in which a computation ends. -/
def fault? : Except ε α → Option ε
  | .ok _ => none
  | .error e => some e

theorem fault?_eq_some_iff {x : Except ε α} {e : ε} : fault? x = some e ↔ x = .error e := by
  cases x <;> simp [fault?]

/-! ## Lists -/

/-- A list of computations that came to a list of values came to them one by one. -/
theorem mapM_eq_ok_iff {f : α → Except ε β} {as : List α} {bs : List β} :
    as.mapM f = .ok bs ↔ List.Forall₂ (fun a b => f a = .ok b) as bs := by
  induction as generalizing bs with
  | nil =>
    rw [List.mapM_nil, List.forall₂_nil_left_iff]
    constructor
    · intro h
      cases h
      rfl
    · rintro rfl
      rfl
  | cons a as ih =>
    rw [List.mapM_cons, bind_eq_ok, List.forall₂_cons_left_iff]
    constructor
    · rintro ⟨b, hb, rest⟩
      obtain ⟨bs', hbs, h⟩ := bind_eq_ok.mp rest
      cases h
      exact ⟨b, bs', hb, ih.mp hbs, rfl⟩
    · rintro ⟨b, bs', hb, hbs, rfl⟩
      exact ⟨b, hb, bind_eq_ok.mpr ⟨bs', ih.mpr hbs, rfl⟩⟩

/-- Every item on one side of a pairwise relation is related to one on the other. -/
theorem exists_of_mem_forall₂ {R : α → β → Prop} {as : List α} {bs : List β}
    (related : List.Forall₂ R as bs) {b : β} (mem : b ∈ bs) : ∃ a ∈ as, R a b := by
  induction related with
  | nil => cases mem
  | @cons a c as bs head _ ih =>
    rcases List.mem_cons.mp mem with rfl | later
    · exact ⟨a, List.mem_cons_self, head⟩
    · obtain ⟨a', inside, came⟩ := ih later
      exact ⟨a', List.mem_cons_of_mem _ inside, came⟩

/-- Every value of a list was computed from some item. -/
theorem exists_of_mem_mapM {f : α → Except ε β} {as : List α} {bs : List β}
    (h : as.mapM f = .ok bs) {b : β} (mem : b ∈ bs) : ∃ a ∈ as, f a = .ok b :=
  exists_of_mem_forall₂ (mapM_eq_ok_iff.mp h) mem

/-- Where each item can be computed in two stages or in one, so can the list. -/
theorem exists_mapM_stages {γ : Type} {f : α → Except ε β} {g : β → Except ε γ}
    {h : α → Except ε γ} {as : List α}
    (each : ∀ a ∈ as, ∃ b c, f a = .ok b ∧ g b = .ok c ∧ h a = .ok c) :
    ∃ bs cs, as.mapM f = .ok bs ∧ bs.mapM g = .ok cs ∧ as.mapM h = .ok cs := by
  induction as with
  | nil => exact ⟨[], [], rfl, rfl, rfl⟩
  | cons a as ih =>
    obtain ⟨⟨b, c, hb, hc, direct⟩, rest⟩ := List.forall_mem_cons.mp each
    obtain ⟨bs, cs, hbs, hcs, directs⟩ := ih rest
    refine ⟨b :: bs, c :: cs, ?_, ?_, ?_⟩
    · rw [List.mapM_cons, hb, hbs]
      rfl
    · rw [List.mapM_cons, hc, hcs]
      rfl
    · rw [List.mapM_cons, direct, directs]
      rfl

/-- What keeps values apart keeps the items apart that they were computed from. -/
theorem pairwise_of_mapM {f : α → Except ε β} {S : β → β → Prop} {T : α → α → Prop}
    (transfer : ∀ a b c d, f a = .ok c → f b = .ok d → S c d → T a b) {as : List α} {bs : List β}
    (h : as.mapM f = .ok bs) (apart : bs.Pairwise S) : as.Pairwise T := by
  have related := mapM_eq_ok_iff.mp h
  clear h
  induction related with
  | nil => exact .nil
  | @cons a c as bs head tail ih =>
    obtain ⟨first, rest⟩ := List.pairwise_cons.mp apart
    refine List.pairwise_cons.mpr ⟨fun b mem => ?_, ih rest⟩
    have flipped : List.Forall₂ (fun d b => f b = .ok d) bs as := List.Forall₂.flip tail
    obtain ⟨d, inside, came⟩ := exists_of_mem_forall₂ flipped mem
    exact transfer a b c d head came (first d inside)

/-- What can be told of every value from what it was computed from. -/
theorem map_eq_of_mapM {γ : Type} {f : α → Except ε β} {as : List α} {bs : List β}
    (h : as.mapM f = .ok bs) {g : β → γ} {k : α → γ}
    (each : ∀ a ∈ as, ∀ b, f a = .ok b → g b = k a) : bs.map g = as.map k := by
  have related := mapM_eq_ok_iff.mp h
  clear h
  induction related with
  | nil => rfl
  | @cons a b as bs hb _ ih =>
    rw [List.map_cons, List.map_cons, each a List.mem_cons_self b hb,
      ih fun a mem => each a (List.mem_cons_of_mem _ mem)]

/-- What can be told of the first value of a kind from the first item of the kind. -/
theorem map_find?_of_mapM {γ : Type} {f : α → Except ε β} {as : List α} {bs : List β}
    (h : as.mapM f = .ok bs) {p : β → Bool} {q : α → Bool} {g : β → γ} {k : α → γ}
    (each : ∀ a ∈ as, ∀ b, f a = .ok b → p b = q a ∧ g b = k a) :
    (bs.find? p).map g = (as.find? q).map k := by
  have related := mapM_eq_ok_iff.mp h
  clear h
  induction related with
  | nil => rfl
  | @cons a b as bs hb _ ih =>
    obtain ⟨kind, told⟩ := each a List.mem_cons_self b hb
    have rest := ih fun a mem => each a (List.mem_cons_of_mem _ mem)
    rw [List.find?_cons, List.find?_cons, kind]
    cases q a with
    | true => exact congrArg some told
    | false => exact rest

/-- Where one item after the other is computed alike up to a change of items and results, so is the
whole list. -/
theorem mapM_map_eq_map {γ δ : Type} {f : α → Except ε β} {g : γ → Except ε δ} {h : α → γ}
    {k : β → δ} {as : List α} (each : ∀ a ∈ as, g (h a) = (f a).map k) :
    (as.map h).mapM g = (as.mapM f).map (List.map k) := by
  induction as with
  | nil => rfl
  | cons a as ih =>
    obtain ⟨own, rest⟩ := List.forall_mem_cons.mp each
    rw [List.map_cons, List.mapM_cons, List.mapM_cons, own, ih rest]
    cases f a with
    | error e => rfl
    | ok b => cases as.mapM f <;> rfl

theorem mapM_map_eq {γ : Type} {f : α → Except ε β} {g : γ → Except ε β} {h : α → γ} {as : List α}
    (each : ∀ a ∈ as, g (h a) = f a) : (as.map h).mapM g = as.mapM f := by
  have alike := mapM_map_eq_map (k := id) (g := g) fun a mem =>
    (each a mem).trans (congrFun Except.map_id (f a)).symm
  rw [alike, List.map_id_fun, Except.map_id, id]

theorem mapM_congr {f g : α → Except ε β} {as : List α} (each : ∀ a ∈ as, f a = g a) :
    as.mapM f = as.mapM g := by
  have alike := mapM_map_eq (h := id) each
  rwa [List.map_id] at alike

theorem mapM_eq_error_or {f g : α → Except ε β} {e : ε} {as : List α}
    (each : ∀ a ∈ as, f a = .error e ∨ f a = g a) :
    as.mapM f = .error e ∨ as.mapM f = as.mapM g := by
  induction as with
  | nil => exact .inr rfl
  | cons a as ih =>
    obtain ⟨own, rest⟩ := List.forall_mem_cons.mp each
    rw [List.mapM_cons, List.mapM_cons]
    rcases own with fails | same
    · exact .inl (by rw [fails, error_bind])
    · rw [same]
      refine bind_eq_error_or fun b _ => ?_
      rcases ih rest with fails | same
      · exact .inl (by rw [fails, error_bind])
      · exact .inr (by rw [same])

/-! ## Computations that come to a value -/

/-- A computation comes to a value, and the value satisfies `P`. -/
def Yields (x : Except ε α) (P : α → Prop) : Prop := ∃ a, x = .ok a ∧ P a

/-- A computation comes to a value. -/
abbrev Returns (x : Except ε α) : Prop := Yields x fun _ => True

namespace Yields

variable {x : Except ε α} {P : α → Prop} {Q : β → Prop}

theorem ok {a : α} (h : P a) : Yields (.ok a : Except ε α) P := ⟨a, rfl, h⟩

theorem returns (h : Yields x P) : Returns x := by
  obtain ⟨a, came, -⟩ := h
  exact ⟨a, came, trivial⟩

theorem of_eq_ok (h : Yields x P) {a : α} (came : x = .ok a) : P a := by
  obtain ⟨_, rfl, hb⟩ := h
  cases came
  exact hb

theorem bind {f : α → Except ε β} (hx : Yields x P) (hf : ∀ a, P a → Yields (f a) Q) :
    Yields (x >>= f) Q := by
  obtain ⟨a, rfl, ha⟩ := hx
  exact hf a ha

theorem map {f : α → β} (hx : Yields x P) (hf : ∀ a, P a → Q (f a)) : Yields (x.map f) Q := by
  obtain ⟨a, rfl, ha⟩ := hx
  exact ⟨f a, rfl, hf a ha⟩

theorem mapM {f : α → Except ε β} {as : List α} (h : ∀ a ∈ as, Yields (f a) Q) :
    Yields (as.mapM f) fun bs => ∀ b ∈ bs, Q b := by
  induction as with
  | nil => exact ⟨[], rfl, by simp⟩
  | cons a as ih =>
    obtain ⟨own, rest⟩ := List.forall_mem_cons.mp h
    rw [List.mapM_cons]
    exact own.bind fun b hb => (ih rest).bind fun bs hbs =>
      ⟨b :: bs, rfl, List.forall_mem_cons.mpr ⟨hb, hbs⟩⟩

end Yields

theorem Returns.map {x : Except ε α} (h : Returns x) (f : α → β) : Returns (x.map f) :=
  Yields.map h fun _ _ => trivial

theorem Returns.mapM {f : α → Except ε β} {as : List α} (h : ∀ a ∈ as, Returns (f a)) :
    Returns (as.mapM f) :=
  (Yields.mapM h).returns

theorem returns_mapM_iff {f : α → Except ε β} {as : List α} :
    Returns (as.mapM f) ↔ ∀ a ∈ as, Returns (f a) := by
  refine ⟨fun h a mem => ?_, Returns.mapM⟩
  obtain ⟨bs, came, -⟩ := h
  have flipped : List.Forall₂ (fun b a => f a = .ok b) bs as :=
    List.Forall₂.flip (mapM_eq_ok_iff.mp came)
  obtain ⟨b, -, own⟩ := exists_of_mem_forall₂ flipped mem
  exact ⟨b, own, trivial⟩

theorem returns_map_iff {x : Except ε α} {f : α → β} : Returns (x.map f) ↔ Returns x := by
  cases x <;> simp [Yields, Except.map]

/-- A fault of a list is the fault of an item. -/
theorem exists_of_mapM_eq_error {f : α → Except ε β} {as : List α} {e : ε}
    (h : as.mapM f = .error e) : ∃ a ∈ as, f a = .error e := by
  induction as with
  | nil => cases h
  | cons a as ih =>
    rw [List.mapM_cons] at h
    cases own : f a with
    | error g =>
      rw [own] at h
      cases h
      exact ⟨a, List.mem_cons_self, own⟩
    | ok b =>
      rw [own, ok_bind] at h
      cases rest : as.mapM f with
      | error g =>
        rw [rest] at h
        cases h
        obtain ⟨a', mem, fails⟩ := ih rest
        exact ⟨a', List.mem_cons_of_mem _ mem, fails⟩
      | ok bs =>
        rw [rest] at h
        cases h

theorem map_eq_error {x : Except ε α} {f : α → β} {e : ε} :
    x.map f = .error e ↔ x = .error e := by
  cases x <;> simp [Except.map]

theorem bind_eq_error {x : Except ε α} {f : α → Except ε β} {e : ε} :
    x >>= f = .error e ↔ x = .error e ∨ ∃ a, x = .ok a ∧ f a = .error e := by
  cases x with
  | error g => simp [error_bind]
  | ok a => simp [ok_bind]

theorem Returns.allM {f : α → Except ε Bool} {as : List α} (h : ∀ a ∈ as, Returns (f a)) :
    Returns (as.allM f) := by
  induction as with
  | nil => exact ⟨true, rfl, trivial⟩
  | cons a as ih =>
    obtain ⟨own, rest⟩ := List.forall_mem_cons.mp h
    rw [List.allM]
    refine own.bind fun holds _ => ?_
    cases holds with
    | true => exact ih rest
    | false => exact ⟨false, rfl, trivial⟩

/-- What is asked of all items is true if it is true of each. -/
theorem allM_eq_ok_true_iff {f : α → Except ε Bool} {as : List α} :
    as.allM f = .ok true ↔ ∀ a ∈ as, f a = .ok true := by
  induction as with
  | nil => simp [List.allM, pure, Except.pure]
  | cons a as ih =>
    rw [List.allM, List.forall_mem_cons, bind_eq_ok]
    constructor
    · rintro ⟨holds, own, rest⟩
      cases holds with
      | true => exact ⟨own, ih.mp rest⟩
      | false => cases rest
    · rintro ⟨own, rest⟩
      exact ⟨true, own, ih.mpr rest⟩

namespace Traced

theorem yields_bind {x : Traced α} {f : α → Traced β} {P : α → Prop} {Q : β → Prop}
    (hx : Yields x.outcome P) (hf : ∀ a, P a → Yields (f a).outcome Q) :
    Yields (x >>= f).outcome Q := by
  rw [outcome_bind]
  exact hx.bind hf

theorem outcome_bind_eq_ok {x : Traced α} {f : α → Traced β} {b : β} :
    (x >>= f).outcome = .ok b ↔ ∃ a, x.outcome = .ok a ∧ (f a).outcome = .ok b := by
  rw [outcome_bind]
  exact bind_eq_ok

theorem outcome_mapList (f : α → Traced β) (as : List α) :
    (mapList f as).outcome = as.mapM fun a => (f a).outcome := by
  induction as with
  | nil => rfl
  | cons a as ih =>
    rw [mapList, List.mapM_cons]
    simp only [outcome_bind, outcome_pure, ih]
    rfl

theorem returns_mapList {f : α → Traced β} {as : List α}
    (h : ∀ a ∈ as, Returns (f a).outcome) : Returns (mapList f as).outcome := by
  rw [outcome_mapList]
  exact Returns.mapM h

end Traced

end RamlDocs
