import RamlDocs.Json.Writer

/-!
# Views that every process writes alike

In which order the members of a set come is up to the process that writes a view. A set of one
member leaves it no choice, so a value that has no larger sets is written alike in every order
(`Json.indented_eq_of_isOrdered`). Of larger sets nothing is said: two orders write the same members
in two ways.
-/

namespace RamlDocs

mutual

/-- Whether no set within a value has several members. -/
def Value.isOrdered : Value → Bool
  | .list vs => areOrdered vs
  | .tuple vs => areOrdered vs
  | .set ks => ks.length ≤ 1
  | .map m => entriesOrdered m
  | _ => true

/-- Whether no set within items has several members. -/
def areOrdered : List Value → Bool
  | [] => true
  | v :: vs => v.isOrdered && areOrdered vs

/-- Whether no set within the values of entries has several members. -/
def entriesOrdered : List (Key × Value) → Bool
  | [] => true
  | (_, v) :: m => v.isOrdered && entriesOrdered m

end

namespace Json

/-- One member comes in one order. -/
theorem SetOrder.arrange_of_length_le_one (order : SetOrder) {ks : List Key}
    (single : ks.length ≤ 1) : order.arrange ks = ks := by
  have same := order.perm ks
  match ks, single with
  | [], _ => exact same.eq_nil
  | [k], _ => exact List.perm_singleton.mp same

variable (order other : SetOrder)

mutual

/-- A value without larger sets is written alike in every order. -/
theorem indented_eq_of_isOrdered (indent depth : Nat) :
    ∀ v : Value, v.isOrdered = true →
      indented order indent depth v = indented other indent depth v
  | .null, _ => rfl
  | .bool _, _ => rfl
  | .int _, _ => rfl
  | .float _, _ => rfl
  | .text _, _ => rfl
  | .bytes _, _ => rfl
  | .moment _, _ => rfl
  | .list vs, h => by
    rw [indented, indented, indentedItems_eq_of_areOrdered indent depth vs h]
  | .tuple vs, h => by
    rw [indented, indented, indentedItems_eq_of_areOrdered indent depth vs h]
  | .set ks, h => by
    have single : ks.length ≤ 1 := by simpa [Value.isOrdered] using h
    rw [indented, indented, order.arrange_of_length_le_one single,
      other.arrange_of_length_le_one single]
  | .map m, h => by
    rw [indented, indented, indentedEntries_eq_of_entriesOrdered indent depth m h]

theorem indentedItems_eq_of_areOrdered (indent depth : Nat) :
    ∀ vs : List Value, areOrdered vs = true →
      indentedItems order indent depth vs = indentedItems other indent depth vs
  | [], _ => rfl
  | v :: vs, h => by
    rw [areOrdered, Bool.and_eq_true] at h
    rw [indentedItems, indentedItems, indented_eq_of_isOrdered indent (depth + 1) v h.1,
      indentedItems_eq_of_areOrdered indent depth vs h.2]

theorem indentedEntries_eq_of_entriesOrdered (indent depth : Nat) :
    ∀ m : List (Key × Value), entriesOrdered m = true →
      indentedEntries order indent depth m = indentedEntries other indent depth m
  | [], _ => rfl
  | (k, v) :: m, h => by
    rw [entriesOrdered, Bool.and_eq_true] at h
    rw [indentedEntries, indentedEntries, indented_eq_of_isOrdered indent (depth + 1) v h.1,
      indentedEntries_eq_of_entriesOrdered indent depth m h.2]

end

/-- The members of sets from the last one on. -/
def SetOrder.backwards : SetOrder := ⟨List.reverse, List.reverse_perm⟩

example : (indented .asRead 0 0 (.set [.text "new", .text "used"])).toOption =
      some "[\n\x22new\x22,\n\x22used\x22\n]" ∧
    (indented .backwards 0 0 (.set [.text "new", .text "used"])).toOption =
      some "[\n\x22used\x22,\n\x22new\x22\n]" := by
  decide

end Json

end RamlDocs
