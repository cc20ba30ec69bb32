import RamlDocs.Proofs.Outcome
import RamlDocs.Proofs.Value.Vocabulary
import RamlDocs.Value.Plain

/-!
# What plain values are made of

The mappings of a plain value have texts for keys and no key twice, and bytes and points in time
are gone (`Value.within_plain`). Inside of tuples and sets nothing changes.
-/

namespace RamlDocs

/-- Texts for keys, and every scalar but bytes and points in time. -/
def textual : Vocabulary where
  key k := k.text?.isSome
  scalar
    | .bytes _ => false
    | .moment _ => false
    | _ => true
  null := rfl

theorem exists_text_of_textual {k : Key} (h : textual.key k = true) : ∃ s, k = .text s := by
  cases k with
  | text s => exact ⟨s, rfl⟩
  | _ => cases h

/-- A key that comes twice counts once. -/
theorem entriesWithin_ofList {V : Vocabulary} {es : List (Key × Value)}
    (all : ∀ e ∈ es, V.key e.1 = true ∧ e.2.within V = true) :
    entriesWithin V (Mapping.ofList es) = true :=
  entriesWithin_overlay_of_forall rfl all

mutual

theorem Value.within_plain : ∀ (v : Value) {w : Value}, v.plain = .ok w → w.within textual = true
  | .list vs, w, h => by
    obtain ⟨ws, came, rfl⟩ := map_eq_ok.mp h
    exact itemsWithin_iff.mpr (within_plainItems vs came)
  | .map m, w, h => by
    obtain ⟨es, came, rfl⟩ := map_eq_ok.mp h
    exact entriesWithin_ofList (within_plainEntries m came)
  | .bytes _, _, h | .moment _, _, h | .null, _, h | .bool _, _, h | .int _, _, h
  | .float _, _, h | .text _, _, h | .tuple _, _, h | .set _, _, h => by
    cases h
    rfl

theorem within_plainItems : ∀ (vs : List Value) {ws : List Value}, plainItems vs = .ok ws →
    ∀ w ∈ ws, w.within textual = true
  | [], _, h => by
    cases h
    simp
  | v :: vs, _, h => by
    obtain ⟨w, own, h⟩ := bind_eq_ok.mp h
    obtain ⟨ws, rest, h⟩ := bind_eq_ok.mp h
    cases h
    exact List.forall_mem_cons.mpr ⟨v.within_plain own, within_plainItems vs rest⟩

theorem within_plainEntries : ∀ (m : List (Key × Value)) {es : List (Key × Value)},
    plainEntries m = .ok es → ∀ e ∈ es, textual.key e.1 = true ∧ e.2.within textual = true
  | [], _, h => by
    cases h
    simp
  | (k, v) :: m, _, h => by
    obtain ⟨name, _, h⟩ := bind_eq_ok.mp h
    obtain ⟨w, own, h⟩ := bind_eq_ok.mp h
    obtain ⟨es, rest, h⟩ := bind_eq_ok.mp h
    cases h
    exact List.forall_mem_cons.mpr ⟨⟨rfl, v.within_plain own⟩, within_plainEntries m rest⟩

end

theorem Mapping.within_plain {m root : Mapping} (h : m.plain = .ok root) :
    entriesWithin textual root = true := by
  obtain ⟨es, came, rfl⟩ := map_eq_ok.mp h
  exact entriesWithin_ofList (within_plainEntries m came)

end RamlDocs
