import Mathlib.Data.List.Forall2
import RamlDocs.Proofs.Outcome
import RamlDocs.Yaml.Staged

/-!
# Computations that end alike

Two computations end alike if they come to the same value, or both to a fault, and the faults are
related. Whatever goes on in the same way after two computations that end alike ends alike. For work
in stages the related faults are of the same stage, so of several faults the same one stands on both
sides.
-/

namespace RamlDocs

variable {ε ζ α β : Type} {R : ε → ε → Prop}

/-- Two computations come to the same value or to related faults. -/
inductive Alike (R : ε → ε → Prop) : Except ε α → Except ε α → Prop
  | ok (a : α) : Alike R (.ok a) (.ok a)
  | error {d e : ε} (related : R d e) : Alike R (.error d) (.error e)

namespace Alike

variable {x y : Except ε α}

theorem refl (same : ∀ e, R e e) (x : Except ε α) : Alike R x x := by
  cases x with
  | error e => exact .error (same e)
  | ok a => exact .ok a

theorem of_right_eq_error {e : ε} (h : Alike R x y) (ends : y = .error e) :
    ∃ d, x = .error d ∧ R d e := by
  cases h with
  | ok a => cases ends
  | error related =>
    cases ends
    exact ⟨_, rfl, related⟩

theorem bind {f g : α → Except ε β} (h : Alike R x y)
    (next : ∀ a, x = .ok a → Alike R (f a) (g a)) : Alike R (x >>= f) (y >>= g) := by
  cases h with
  | ok a => exact next a rfl
  | error related => exact .error related

theorem map (h : Alike R x y) (f : α → β) : Alike R (x.map f) (y.map f) := by
  cases h with
  | ok a => exact .ok (f a)
  | error related => exact .error related

theorem mapError {S : ζ → ζ → Prop} {f g : ε → ζ} (h : Alike R x y)
    (each : ∀ d e, R d e → S (f d) (g e)) : Alike S (x.mapError f) (y.mapError g) := by
  cases h with
  | ok a => exact .ok a
  | error related => exact .error (each _ _ related)

theorem mono {S : ε → ε → Prop} (h : Alike R x y) (weaker : ∀ d e, R d e → S d e) :
    Alike S x y := by
  cases h with
  | ok a => exact .ok a
  | error related => exact .error (weaker _ _ related)

theorem mapM {f g : α → Except ε β} {as : List α} (each : ∀ a ∈ as, Alike R (f a) (g a)) :
    Alike R (as.mapM f) (as.mapM g) := by
  induction as with
  | nil => exact .ok []
  | cons a as ih =>
    obtain ⟨own, rest⟩ := List.forall_mem_cons.mp each
    rw [List.mapM_cons, List.mapM_cons]
    exact own.bind fun b _ => (ih rest).bind fun bs _ => .ok (b :: bs)

end Alike

/-! ## Options -/

theorem rel_map {α β γ δ : Type} {S : α → β → Prop} {T : γ → δ → Prop} {x : Option α}
    {y : Option β} {f : α → γ} {g : β → δ} (h : Option.Rel S x y)
    (each : ∀ a b, S a b → T (f a) (g b)) : Option.Rel T (x.map f) (y.map g) := by
  cases h with
  | none => exact .none
  | some related => exact .some (each _ _ related)

theorem rel_bind {α β γ δ : Type} {S : α → β → Prop} {T : γ → δ → Prop} {x : Option α}
    {y : Option β} {f : α → Option γ} {g : β → Option δ} (h : Option.Rel S x y)
    (next : ∀ a b, S a b → Option.Rel T (f a) (g b)) : Option.Rel T (x >>= f) (y >>= g) := by
  cases h with
  | none => exact .none
  | some related => exact next _ _ related

theorem rel_mapM {α β γ δ : Type} {S : α → β → Prop} {T : γ → δ → Prop} {f : α → Option γ}
    {g : β → Option δ} (each : ∀ a b, S a b → Option.Rel T (f a) (g b)) {as : List α}
    {bs : List β} (h : List.Forall₂ S as bs) :
    Option.Rel (List.Forall₂ T) (as.mapM f) (bs.mapM g) := by
  induction h with
  | nil => exact .some .nil
  | @cons a b as bs own _ ih =>
    rw [List.mapM_cons, List.mapM_cons]
    exact rel_bind (each a b own) fun _ _ first => rel_bind ih fun _ _ rest =>
      .some (.cons first rest)

/-! ## Work in stages -/

namespace Staged

/-- Faults of the same stage that are related. -/
def SameStage (R : ε → ε → Prop) (d e : Nat × ε) : Prop := d.1 = e.1 ∧ R d.2 e.2

/-- Two pieces of work come to the same value or to related faults of the same stage. -/
abbrev Alike (R : ε → ε → Prop) : Staged ε α → Staged ε α → Prop := RamlDocs.Alike (SameStage R)

theorem alike_refl (same : ∀ e, R e e) (x : Staged ε α) : Staged.Alike R x x :=
  RamlDocs.Alike.refl (fun e => ⟨rfl, same e.2⟩) x

theorem alike_now {x y : Except ε α} (h : RamlDocs.Alike R x y) :
    Staged.Alike R (now x) (now y) :=
  h.mapError fun _ _ related => ⟨rfl, related⟩

theorem alike_later {x y : Staged ε α} (h : Staged.Alike R x y) :
    Staged.Alike R (later x) (later y) :=
  h.mapError fun _ _ related => ⟨congrArg (· + 1) related.1, related.2⟩

theorem alike_outcome {x y : Staged ε α} (h : Staged.Alike R x y) :
    RamlDocs.Alike R x.outcome y.outcome :=
  h.mapError fun _ _ related => related.2

/-- The stages decide which of two faults stands, and they are the same on both sides. -/
theorem alike_both {x y : Staged ε α} {z w : Staged ε β} (left : Staged.Alike R x y)
    (right : Staged.Alike R z w) : Staged.Alike R (both x z) (both y w) := by
  cases left with
  | ok a =>
    cases right with
    | ok b => exact .ok (a, b)
    | error related => exact .error related
  | @error d e first =>
    cases right with
    | ok b => exact .error first
    | @error d' e' second =>
      have stages : d'.1 < d.1 ↔ e'.1 < e.1 := by rw [first.1, second.1]
      by_cases before : d'.1 < d.1
      · rw [both, both, if_pos before, if_pos (stages.mp before)]
        exact .error second
      · rw [both, both, if_neg before, if_neg (mt stages.mpr before)]
        exact .error first

theorem alike_all {xs ys : List (Staged ε α)} (h : List.Forall₂ (Staged.Alike R) xs ys) :
    Staged.Alike R (all xs) (all ys) := by
  induction h with
  | nil => exact .ok []
  | cons own _ ih => exact (alike_both own ih).map _

theorem alike_filled (collect : List α → β) {xs ys : List (Staged ε α)}
    (h : List.Forall₂ (Staged.Alike R) xs ys) :
    Staged.Alike R (filled collect xs) (filled collect ys) :=
  alike_later ((alike_all h).map collect)

end Staged

end RamlDocs
