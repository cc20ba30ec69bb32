import Mathlib.Logic.Relation
import RamlDocs.Proofs.View.Reference
import RamlDocs.View.Inheritance

/-!
# Inherited rows

A type inherits from the types that its parents name, those of the language itself apart. A parent
without a point is looked up in the library of the type; a parent with a point is a reference as the
definition would write it, to whatever library the definition has under the alias. The table of a
type is a walk along this relation that stops where it meets a type again on the way it came. What
the walk yields is stated against the relation alone:

- it ends, since each step passes through one more type of the registry (`calls_wellFounded`);
- its rows are own rows of ancestors (`exists_ancestor_of_mem_rows`);
- no ancestor is lost to the stop, for an ancestor is also reached on a way that meets no type twice
  (`ownRows_infix_rows`);
- without a cycle the stop is never used, and the table is that of the parents followed by the own
  rows (`tableAfter_eq_tableOf_of_calls`).

The order and number of the rows that a cycle leaves is not stated.
-/

namespace RamlDocs

/-- The rows that a type declares itself: those of its properties, or else of its JSON schema. -/
def TypeDecl.ownRows (t : TypeDecl) : List Row :=
  match t.properties with
  | [] => (Schema.tableOf t.schema).value.rows
  | properties => properties.map Property.row

theorem TypeDecl.rows_ownTable (t : TypeDecl) : t.ownTable.value.rows = t.ownRows := by
  unfold ownTable ownRows
  cases t.properties with
  | cons p ps => rfl
  | nil => cases t.schema <;> rfl

theorem TypeDecl.mem_properParents {t : TypeDecl} {p : String} :
    p ∈ t.properParents ↔ p ∈ t.parents ∧ p ∉ builtinTypes := by
  simp [properParents]

namespace Registry

variable {registry : Registry} {seen : List String} {reference : String} {a b c : Declared}

/-! ## One step of the walk -/

theorem withType_of_none (h : registry.find? reference = none)
    (f : (owner : Option String) → (t : TypeDecl) → qualify owner t.name ∈ registry.keys →
      Logged Table) :
    registry.withType reference f = noTable (.unresolvedType reference) := by
  unfold withType
  split
  next => rfl
  next found => rw [h] at found; cases found

theorem withType_of_some (h : registry.find? reference = some a)
    (f : (owner : Option String) → (t : TypeDecl) → qualify owner t.name ∈ registry.keys →
      Logged Table) :
    registry.withType reference f = f a.1 a.2 (key_mem_keys h) := by
  unfold withType
  split
  next found => rw [h] at found; cases found
  next found => rw [h] at found; cases found; rfl

theorem tableAfter_of_unresolved (h : registry.find? reference = none) :
    (registry.tableAfter seen reference).value = .empty := by
  rw [tableAfter, withType_of_none h]
  rfl

theorem tableAfter_of_met (h : registry.find? reference = some a) (met : key a ∈ seen) :
    (registry.tableAfter seen reference).value = .empty := by
  rw [tableAfter, withType_of_some h]
  exact congrArg Logged.value (dif_pos met)

/-- The rows of the parents, each after passing through one more type, and then the own rows. -/
theorem tableAfter_of_new (h : registry.find? reference = some a) (new : key a ∉ seen) :
    (registry.tableAfter seen reference).value =
      .ofRows (a.2.properParents.flatMap
        (fun p => (registry.tableAfter (key a :: seen) (qualify a.1 p)).value.rows) ++
          a.2.ownRows) := by
  rw [tableAfter, withType_of_some h]
  refine (congrArg Logged.value (dif_neg new)).trans ?_
  simp [joinParents, Table.concat_eq_ofRows, TypeDecl.rows_ownTable, List.flatMap_map, key]

/-- The rows of a type with one parent are those of the parent, and then its own. -/
theorem rows_tableAfter_of_parent {p : String} (h : registry.find? reference = some a)
    (new : key a ∉ seen) (only : a.2.properParents = [p]) :
    (registry.tableAfter seen reference).value.rows =
      (registry.tableAfter (key a :: seen) (qualify a.1 p)).value.rows ++ a.2.ownRows := by
  rw [tableAfter_of_new h new, only, List.flatMap_singleton, Table.rows_ofRows]

/-! ## The walk ends -/

/-- The walk for one reference asks for the table of a parent, after passing through one more
type. -/
inductive Calls (registry : Registry) : List String × String → List String × String → Prop
  | parent {seen : List String} {reference p : String} {a : Declared}
      (found : registry.find? reference = some a) (new : key a ∉ seen)
      (mem : p ∈ a.2.parents) (proper : p ∉ builtinTypes) :
      Calls registry (seen, reference) (key a :: seen, qualify a.1 p)

/-- No walk goes on for ever: the types not yet passed through become fewer. -/
theorem calls_wellFounded (registry : Registry) :
    WellFounded fun next now => registry.Calls now next := by
  apply Subrelation.wf (r := fun next now =>
    (registry.unseen next.1).length < (registry.unseen now.1).length)
  · intro next now call
    cases call with
    | parent found new => exact unseen_length_lt (key_mem_keys found) new
  · exact (measure fun call : List String × String => (registry.unseen call.1).length).wf

/-- Induction along the walk, by what it finds at a reference. -/
theorem walk_induction (registry : Registry) {motive : List String → String → Prop}
    (unresolved : ∀ seen reference, registry.find? reference = none → motive seen reference)
    (met : ∀ seen reference a, registry.find? reference = some a → key a ∈ seen →
      motive seen reference)
    (new : ∀ seen reference a, registry.find? reference = some a → key a ∉ seen →
      (∀ p ∈ a.2.properParents, motive (key a :: seen) (qualify a.1 p)) → motive seen reference)
    (seen : List String) (reference : String) : motive seen reference := by
  have all : ∀ call : List String × String, motive call.1 call.2 := by
    intro call
    induction call using registry.calls_wellFounded.induction with
    | _ call ih =>
      obtain ⟨seen, reference⟩ := call
      cases found : registry.find? reference with
      | none => exact unresolved seen reference found
      | some a =>
        by_cases known : key a ∈ seen
        · exact met seen reference a found known
        · refine new seen reference a found known fun p mem => ?_
          obtain ⟨named, proper⟩ := TypeDecl.mem_properParents.mp mem
          exact ih (key a :: seen, qualify a.1 p) (.parent found known named proper)
  exact all (seen, reference)

/-! ## Ancestors -/

/-- A type inherits from another if a parent that is no type of the language, seen from its own
library, names the other. -/
def Inherits (registry : Registry) (a b : Declared) : Prop :=
  ∃ p ∈ a.2.parents, p ∉ builtinTypes ∧ registry.find? (qualify a.1 p) = some b

/-- The second type is the first or one of its ancestors. -/
abbrev Descends (registry : Registry) : Declared → Declared → Prop :=
  Relation.ReflTransGen registry.Inherits

/-- No ancestor of a type, itself included, is an ancestor of itself. -/
def Acyclic (registry : Registry) (a : Declared) : Prop :=
  ∀ b, registry.Descends a b → ¬ Relation.TransGen registry.Inherits b b

theorem inherits_iff : registry.Inherits a b ↔
    ∃ p ∈ a.2.properParents, registry.find? (qualify a.1 p) = some b := by
  simp only [Inherits, TypeDecl.mem_properParents, and_assoc]

theorem exists_reference_of_descends (h : registry.find? reference = some a)
    (way : registry.Descends a b) : ∃ r, registry.find? r = some b := by
  cases way with
  | refl => exact ⟨reference, h⟩
  | tail _ last =>
    obtain ⟨p, _, _, found⟩ := last
    exact ⟨_, found⟩

/-- Every row of a table is an own row of an ancestor. -/
theorem exists_ancestor_of_mem_rows (seen : List String) (reference : String) :
    ∀ r ∈ (registry.tableAfter seen reference).value.rows,
      ∃ a b, registry.find? reference = some a ∧ registry.Descends a b ∧ r ∈ b.2.ownRows := by
  induction seen, reference using registry.walk_induction with
  | unresolved seen reference h => simp [tableAfter_of_unresolved h]
  | met seen reference a h met => simp [tableAfter_of_met h met]
  | new seen reference a h new ih =>
    intro r mem
    rw [tableAfter_of_new h new, Table.rows_ofRows] at mem
    rcases List.mem_append.mp mem with inherited | own
    · obtain ⟨p, hp, below⟩ := List.mem_flatMap.mp inherited
      obtain ⟨c, b, found, way, hr⟩ := ih p hp r below
      exact ⟨a, b, h, .head (inherits_iff.mpr ⟨p, hp, found⟩) way, hr⟩
    · exact ⟨a, a, h, .refl, own⟩

/-! ## No ancestor is lost -/

/-- `b` is reached from `a` without passing through a type whose key is in `seen`, ends
included. -/
inductive DescendsOutside (registry : Registry) (seen : List String) : Declared → Declared → Prop
  | self {a : Declared} (new : key a ∉ seen) : DescendsOutside registry seen a a
  | step {a b c : Declared} (new : key a ∉ seen) (inherits : registry.Inherits a c)
      (rest : DescendsOutside registry seen c b) : DescendsOutside registry seen a b

theorem DescendsOutside.start_new (h : registry.DescendsOutside seen a b) : key a ∉ seen := by
  cases h with
  | self new => exact new
  | step new _ _ => exact new

theorem descendsOutside_nil (way : registry.Descends a b) : registry.DescendsOutside [] a b := by
  induction way using Relation.ReflTransGen.head_induction_on with
  | refl => exact .self List.not_mem_nil
  | head inherits _ ih => exact .step List.not_mem_nil inherits ih

/-- A way either avoids the key `k`, or passes through it for a last time and avoids it from there
on. -/
theorem DescendsOutside.avoid_or_leave (k : String) (h : registry.DescendsOutside seen a b)
    (found : ∃ r, registry.find? r = some a) :
    registry.DescendsOutside (k :: seen) a b ∨
      ∃ d, (∃ r, registry.find? r = some d) ∧ key d = k ∧
        (d = b ∨ ∃ c, registry.Inherits d c ∧ registry.DescendsOutside (k :: seen) c b) := by
  induction h with
  | @self a new =>
    by_cases hk : key a = k
    · exact .inr ⟨a, found, hk, .inl rfl⟩
    · exact .inl (.self (by simp [hk, new]))
  | @step a b c new inherits rest ih =>
    obtain ⟨p, _, _, hp⟩ := id inherits
    rcases ih ⟨_, hp⟩ with avoids | leaves
    · by_cases hk : key a = k
      · exact .inr ⟨a, found, hk, .inr ⟨c, inherits, avoids⟩⟩
      · exact .inl (.step (by simp [hk, new]) inherits avoids)
    · exact .inr leaves

/-- A way out of `a` need not come back to it. -/
theorem DescendsOutside.leave_start (h : registry.DescendsOutside seen a b)
    (found : registry.find? reference = some a) :
    a = b ∨ ∃ c, registry.Inherits a c ∧ registry.DescendsOutside (key a :: seen) c b := by
  rcases h.avoid_or_leave (key a) ⟨_, found⟩ with avoids | ⟨d, ⟨r, hd⟩, same, rest⟩
  · exact absurd List.mem_cons_self avoids.start_new
  · obtain rfl := key_injective hd found same
    exact rest

/-- The own rows come last. -/
theorem ownRows_suffix_rows (h : registry.find? reference = some a) (new : key a ∉ seen) :
    a.2.ownRows <:+ (registry.tableAfter seen reference).value.rows := by
  rw [tableAfter_of_new h new, Table.rows_ofRows]
  exact List.suffix_append _ _

/-- The own rows of every ancestor that is reached outside the types passed through stand together
in the table. -/
theorem ownRows_infix_rows (seen : List String) (reference : String) :
    ∀ {a b : Declared}, registry.find? reference = some a → registry.DescendsOutside seen a b →
      b.2.ownRows <:+: (registry.tableAfter seen reference).value.rows := by
  induction seen, reference using registry.walk_induction with
  | unresolved seen reference h =>
    intro a b found
    rw [h] at found
    cases found
  | met seen reference d h met =>
    intro a b found way
    rw [h] at found
    cases found
    exact absurd met way.start_new
  | new seen reference d h new ih =>
    intro a b found way
    rw [h] at found
    cases found
    rcases way.leave_start h with rfl | ⟨c, inherits, rest⟩
    · exact (ownRows_suffix_rows h new).isInfix
    · obtain ⟨p, hp, hc⟩ := inherits_iff.mp inherits
      have below := ih p hp hc rest
      rw [tableAfter_of_new h new, Table.rows_ofRows, List.flatMap_def]
      have part := List.infix_of_mem_flatten (List.mem_map_of_mem
        (f := fun p => (registry.tableAfter (key d :: seen) (qualify d.1 p)).value.rows) hp)
      exact (below.trans part).trans (List.prefix_append _ _).isInfix

/-! ## Without a cycle -/

/-- The table depends on the types passed through only as far as they are ancestors. -/
theorem tableAfter_congr (seen : List String) (reference : String) :
    ∀ {other : List String},
      (∀ a b, registry.find? reference = some a → registry.Descends a b →
        (key b ∈ seen ↔ key b ∈ other)) →
      (registry.tableAfter seen reference).value = (registry.tableAfter other reference).value := by
  induction seen, reference using registry.walk_induction with
  | unresolved seen reference h =>
    intro other _
    rw [tableAfter_of_unresolved h, tableAfter_of_unresolved h]
  | met seen reference a h met =>
    intro other agree
    rw [tableAfter_of_met h met, tableAfter_of_met h ((agree a a h .refl).mp met)]
  | new seen reference a h new ih =>
    intro other agree
    have new' : key a ∉ other := fun met => new ((agree a a h .refl).mpr met)
    have parents : ∀ p ∈ a.2.properParents,
        (registry.tableAfter (key a :: seen) (qualify a.1 p)).value.rows =
          (registry.tableAfter (key a :: other) (qualify a.1 p)).value.rows := by
      intro p hp
      rw [ih p hp]
      intro c b hc way
      have same := agree a b h (.head (inherits_iff.mpr ⟨p, hp, hc⟩) way)
      simp [same]
    rw [tableAfter_of_new h new, tableAfter_of_new h new', List.flatMap_congr parents]

/-- Every type passed through on the way to a call is a strict descendant of what the call is
about. -/
theorem descends_of_calls (h : registry.find? reference = some a) {call : List String × String}
    (calls : Relation.ReflTransGen registry.Calls ([], reference) call) :
    (∀ d, registry.find? call.2 = some d → registry.Descends a d) ∧
      ∀ k ∈ call.1, ∃ b r, registry.find? r = some b ∧ key b = k ∧ registry.Descends a b ∧
        ∀ d, registry.find? call.2 = some d → Relation.TransGen registry.Inherits b d := by
  induction calls with
  | refl =>
    refine ⟨fun d hd => ?_, fun k hk => absurd hk List.not_mem_nil⟩
    rw [h] at hd
    cases hd
    exact .refl
  | tail _ last ih =>
    obtain ⟨below, passed⟩ := ih
    cases last with
    | @parent seen r p b found new mem proper =>
      have inherits : ∀ d, registry.find? (qualify b.1 p) = some d → registry.Inherits b d :=
        fun d hd => ⟨p, mem, proper, hd⟩
      refine ⟨fun d hd => (below b found).tail (inherits d hd), fun k hk => ?_⟩
      rcases List.mem_cons.mp hk with rfl | hk
      · exact ⟨b, r, found, rfl, below b found, fun d hd => .single (inherits d hd)⟩
      · obtain ⟨c, s, hc, same, way, strict⟩ := passed k hk
        exact ⟨c, s, hc, same, way, fun d hd => (strict b found).tail (inherits d hd)⟩

/-- Without a cycle above a type, what the walk has passed through never matters. -/
theorem tableAfter_eq_tableOf_of_calls (h : registry.find? reference = some a)
    (acyclic : registry.Acyclic a) {call : List String × String}
    (calls : Relation.ReflTransGen registry.Calls ([], reference) call) :
    (registry.tableAfter call.1 call.2).value = (registry.tableOf call.2).value := by
  apply tableAfter_congr
  intro d c hd way
  obtain ⟨-, passed⟩ := descends_of_calls h calls
  -- a type passed through that is an ancestor again would close a cycle
  have unmet : key c ∉ call.1 := by
    intro met
    obtain ⟨b, r, hb, same, above, strict⟩ := passed (key c) met
    obtain ⟨s, hc⟩ := exists_reference_of_descends hd way
    obtain rfl := key_injective hb hc same
    exact acyclic b above ((strict d hd).trans_left way)
  simp [unmet]

/-- The parents of a type that are found in the registry, those of the language apart, as
references. -/
def foundParents (registry : Registry) (a : Declared) : List String :=
  ((a.2.parents.filter (· ∉ builtinTypes)).map (qualify a.1)).filter
    fun r => (registry.find? r).isSome

/-- Parents that are not found have no rows. -/
theorem flatMap_rows_foundParents (registry : Registry) (a : Declared) :
    (registry.foundParents a).flatMap (fun r => (registry.tableOf r).value.rows) =
      a.2.properParents.flatMap fun p => (registry.tableOf (qualify a.1 p)).value.rows := by
  have proper : a.2.properParents = a.2.parents.filter (· ∉ builtinTypes) :=
    List.filter_congr fun p _ => by simp
  rw [foundParents, ← proper]
  induction a.2.properParents with
  | nil => rfl
  | cons p ps ih =>
    cases found : registry.find? (qualify a.1 p) with
    | none =>
      have none_ : (registry.tableOf (qualify a.1 p)).value = .empty :=
        tableAfter_of_unresolved found
      simpa [found, none_] using ih
    | some _ => simpa [found] using ih

theorem tableOf_of_acyclic (h : registry.find? reference = some a)
    (acyclic : registry.Acyclic a) :
    (registry.tableOf reference).value =
      .ofRows ((registry.foundParents a).flatMap
        (fun r => (registry.tableOf r).value.rows) ++ a.2.ownRows) := by
  have parents : ∀ p ∈ a.2.properParents,
      (registry.tableAfter [key a] (qualify a.1 p)).value.rows =
        (registry.tableOf (qualify a.1 p)).value.rows := by
    intro p hp
    obtain ⟨named, proper⟩ := TypeDecl.mem_properParents.mp hp
    have call : registry.Calls ([], reference) ([key a], qualify a.1 p) :=
      .parent h List.not_mem_nil named proper
    exact congrArg Table.rows (tableAfter_eq_tableOf_of_calls h acyclic (.single call))
  have new : key a ∉ ([] : List String) := List.not_mem_nil
  have first := tableAfter_of_new h new
  rw [List.flatMap_congr parents] at first
  rw [flatMap_rows_foundParents]
  exact first

/-! ## The table of a type -/

/-- What the walk makes of a reference to the type `a`. -/
structure InheritedTable (registry : Registry) (reference : String) (a : Declared) : Prop where
  /-- The walk ends. -/
  ends : Acc (fun next now => registry.Calls now next) ([], reference)
  /-- Every row is an own row of an ancestor. -/
  sound : ∀ r ∈ (registry.tableOf reference).value.rows,
    ∃ b, registry.Descends a b ∧ r ∈ b.2.ownRows
  /-- The own rows of every ancestor stand together somewhere, also on a cycle. -/
  complete : ∀ b, registry.Descends a b →
    b.2.ownRows <:+: (registry.tableOf reference).value.rows
  /-- The own rows come last. -/
  last : a.2.ownRows <:+ (registry.tableOf reference).value.rows
  /-- Without a cycle, the tables of the parents come one after another before the own rows. -/
  joined : registry.Acyclic a →
    (registry.tableOf reference).value =
      .ofRows ((registry.foundParents a).flatMap
        (fun r => (registry.tableOf r).value.rows) ++ a.2.ownRows)
  /-- Without a cycle, no call of the walk depends on what was passed through before it. -/
  unstopped : registry.Acyclic a →
    ∀ call, Relation.ReflTransGen registry.Calls ([], reference) call →
      (registry.tableAfter call.1 call.2).value = (registry.tableOf call.2).value

/-- The table of a type that is found holds the own rows of its ancestors, all of them and nothing
else, whatever cycles the registry has. -/
theorem inheritedTable_of_found (h : registry.find? reference = some a) :
    registry.InheritedTable reference a where
  ends := registry.calls_wellFounded.apply _
  sound := by
    intro r mem
    obtain ⟨b, c, found, way, hr⟩ := exists_ancestor_of_mem_rows [] reference r mem
    rw [h] at found
    cases found
    exact ⟨c, way, hr⟩
  complete := fun _ way => ownRows_infix_rows [] reference h (descendsOutside_nil way)
  last := ownRows_suffix_rows h List.not_mem_nil
  joined := tableOf_of_acyclic h
  unstopped := fun acyclic _ calls => tableAfter_eq_tableOf_of_calls h acyclic calls

/-- Two types of a library that inherit from each other, and a type that inherits from one. -/
def knotted : Registry where
  libraries := [("shop", { name := "shop", types := [
    { name := "Item", parents := ["Box"], properties := [{ name := "price" }] },
    { name := "Box", parents := ["Item", "object"], properties := [{ name := "size" }] }] })]
  types := [{ name := "Order", parents := ["shop.Item"], properties := [{ name := "count" }] }]

/-- The walk goes from the order to the item, on to the box, and stops where the box names the item
again. -/
theorem rows_knotted : (knotted.tableOf " Order").value.rows =
    [Property.row { name := "size" }, Property.row { name := "price" },
      Property.row { name := "count" }] := by
  have order : knotted.find? " Order" = some (none, knotted.types[0]) := rfl
  have item : knotted.find? "shop.Item" = some (some "shop", knotted.libraries[0].2.types[0]) := rfl
  have box : knotted.find? "shop.Box" = some (some "shop", knotted.libraries[0].2.types[1]) := rfl
  have again : (knotted.tableAfter ["shop.Box", "shop.Item", "Order"] "shop.Item").value =
      .empty := tableAfter_of_met item (by decide)
  have ofBox : (knotted.tableAfter ["shop.Item", "Order"] "shop.Box").value.rows =
      [Property.row { name := "size" }] :=
    (rows_tableAfter_of_parent box (by decide) rfl).trans
      (congrArg (·.rows ++ [Property.row { name := "size" }]) again)
  have ofItem : (knotted.tableAfter ["Order"] "shop.Item").value.rows =
      [Property.row { name := "size" }, Property.row { name := "price" }] :=
    (rows_tableAfter_of_parent item (by decide) rfl).trans
      (congrArg (· ++ [Property.row { name := "price" }]) ofBox)
  exact (rows_tableAfter_of_parent order List.not_mem_nil rfl).trans
    (congrArg (· ++ [Property.row { name := "count" }]) ofItem)

theorem inheritedTable_knotted :
    knotted.find? " Order" = some (none, knotted.types[0]) ∧
      knotted.InheritedTable " Order" (none, knotted.types[0]) ∧
      (knotted.tableOf " Order").value.rows =
        [Property.row { name := "size" }, Property.row { name := "price" },
          Property.row { name := "count" }] :=
  ⟨rfl, inheritedTable_of_found rfl, rows_knotted⟩

end Registry

end RamlDocs
