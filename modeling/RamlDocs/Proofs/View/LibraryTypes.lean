import RamlDocs.Proofs.View.Inheritance

/-!
# Types of libraries

A type of a library is found by the alias of the library, and so are the parents that it names
without a point. Two things follow. What other libraries and what local types a registry has does
not matter to a type of a library, but for the libraries that its ancestors name themselves
(`tableOf_eq_of_sameLibrary`); that exception is needed, for such a name goes to whatever the
definition happens to know under the alias (`foreign_parent_captured`). And types that name no
library mean the same in a library as in the definition itself (`tableOf_moved_to_library`).

Both are comparisons of two walks. In the first, the walks meet the same references and the same
types. In the second, every reference and every key of one walk has the alias in front where the
other has not, so the types passed through correspond by name.
-/

namespace RamlDocs.Registry

variable {registry other : Registry} {owner name : String}

/-- Two walks that meet the same type and go on alike from its parents make the same table. -/
theorem tableAfter_eq_of_parents {seen passed : List String} {r r' : String}
    {l l' : Option String} {t : TypeDecl} (h : registry.find? r = some (l, t))
    (h' : other.find? r' = some (l', t)) (new : key (l, t) ∉ seen) (new' : key (l', t) ∉ passed)
    (parents : ∀ p ∈ t.properParents,
      (registry.tableAfter (key (l, t) :: seen) (qualify l p)).value =
        (other.tableAfter (key (l', t) :: passed) (qualify l' p)).value) :
    (registry.tableAfter seen r).value = (other.tableAfter passed r').value := by
  rw [tableAfter_of_new h new, tableAfter_of_new h' new',
    List.flatMap_congr fun p mem => congrArg Table.rows (parents p mem)]

/-! ## Registries that share a library -/

/-- Two registries have the same library under an alias, or both have none. -/
def SameLibrary (registry other : Registry) (owner : String) : Prop :=
  registry.libraries.lookup owner = other.libraries.lookup owner

/-- A proper parent of the type or of one of its ancestors names a library by its alias. -/
def NamesLibrary (registry : Registry) (a : Declared) (owner : String) : Prop :=
  ∃ b, registry.Descends a b ∧ ∃ p ∈ b.2.properParents, alias? p = some owner

/-- A reference with a point finds a type of a library. -/
theorem exists_owner_of_find? {reference : String} {a : Declared} (dotted : '.' ∈ reference.toList)
    (h : registry.find? reference = some a) : ∃ owner, a.1 = some owner := by
  obtain ⟨pieces, -⟩ := find?_eq_some_iff.mp h
  obtain ⟨_ | owner, t⟩ := a
  · exact absurd pieces (splitAt_trimmed_ne_singleton dotted t.name)
  · exact ⟨owner, rfl⟩

/-- A parent of a type of a library is a reference with a point, to that library or to one that the
parent names. -/
theorem alias?_qualify (free : '.' ∉ owner.toList)
    (start : Text.trimLeft owner.toList = owner.toList) (p : String) :
    '.' ∈ (qualify (some owner) p).toList ∧
      ∀ l, alias? (qualify (some owner) p) = some l → l = owner ∨ alias? p = some l := by
  unfold qualify
  by_cases dotted : p.toList.contains '.' = true
  · simp only [dotted, if_true]
    exact ⟨by simpa using dotted, fun l named => .inr named⟩
  · simp only [dotted, Bool.false_eq_true, if_false]
    exact ⟨by simp, fun l named => .inl (eq_of_alias?_append free start named)⟩

/-- The walk is the same in both registries if they share the libraries that it goes through. -/
theorem tableAfter_eq_of_sameLibrary (seen : List String) (reference : String) :
    '.' ∈ reference.toList →
      (∀ l, alias? reference = some l → registry.SameLibrary other l) →
      (∀ a, registry.find? reference = some a →
        ∀ l, registry.NamesLibrary a l → registry.SameLibrary other l) →
      (registry.tableAfter seen reference).value = (other.tableAfter seen reference).value := by
  induction seen, reference using registry.walk_induction with
  | unresolved seen reference h =>
    intro dotted own _
    rw [tableAfter_of_unresolved h, tableAfter_of_unresolved (find?_congr_of_alias dotted own ▸ h)]
  | met seen reference a h met =>
    intro dotted own _
    rw [tableAfter_of_met h met, tableAfter_of_met (find?_congr_of_alias dotted own ▸ h) met]
  | new seen reference a h new ih =>
    intro dotted own abroad
    obtain ⟨_ | owner, t⟩ := a
    · obtain ⟨owner, named⟩ := exists_owner_of_find? dotted h
      cases named
    · obtain ⟨named, free, start⟩ := alias?_of_find? h
      refine tableAfter_eq_of_parents h (find?_congr_of_alias dotted own ▸ h) new new ?_
      intro p mem
      obtain ⟨point, among⟩ := alias?_qualify free start p
      refine ih p mem point (fun l hl => ?_) fun c found l hl => ?_
      · rcases among l hl with rfl | foreign
        · exact own _ named
        · exact abroad _ h l ⟨_, .refl, p, mem, foreign⟩
      · obtain ⟨b, way, names⟩ := hl
        exact abroad _ h l ⟨b, .head (inherits_iff.mpr ⟨p, mem, found⟩) way, names⟩

/-- The table of a type of a library is the same in every definition that has the library under the
alias, whatever local types and other libraries it has, if it has the same under the aliases that
the type or its ancestors name in their parents. -/
theorem tableOf_eq_of_sameLibrary (free : '.' ∉ owner.toList) (solid : Text.trimmed owner = owner)
    (same : registry.SameLibrary other owner)
    (abroad : ∀ a, registry.find? (owner ++ "." ++ name) = some a →
      ∀ l, registry.NamesLibrary a l → registry.SameLibrary other l) :
    (registry.tableOf (owner ++ "." ++ name)).value =
      (other.tableOf (owner ++ "." ++ name)).value := by
  have start := (Text.ends_of_trimmed solid).1
  refine tableAfter_eq_of_sameLibrary [] _ (by simp) (fun l named => ?_) abroad
  rw [eq_of_alias?_append free start named]
  exact same

/-- A library with types that inherit from each other and one that inherits from another library. -/
def shopLibrary : Library where
  name := "shop"
  types := [
    { name := "Order", parents := ["Item", "stock.Box"], properties := [{ name := "count" }] },
    { name := "Item", parents := ["Order", "object"], properties := [{ name := "price" }] }]

def stockLibrary : Library where
  name := "stock"
  types := [{ name := "Box", properties := [{ name := "size" }] }]

/-- A definition with both libraries. -/
def stocked : Registry := ⟨[("shop", shopLibrary), ("stock", stockLibrary)], []⟩

/-- A definition with both libraries, another one and types of the same names. -/
def crowded : Registry where
  libraries := [("stock", stockLibrary), ("extra", shopLibrary), ("shop", shopLibrary)]
  types := [{ name := "Item" }, { name := "Box", properties := [{ name := "weight" }] }]

theorem tableOf_eq_crowded :
    (stocked.tableOf ("shop" ++ "." ++ "Order")).value =
      (crowded.tableOf ("shop" ++ "." ++ "Order")).value := by
  refine tableOf_eq_of_sameLibrary (by decide) rfl rfl fun a found l named => ?_
  obtain ⟨b, way, p, mem, hp⟩ := named
  obtain ⟨r, hb⟩ := exists_reference_of_descends found way
  have aliases : ∀ t ∈ stocked.types ++ stocked.libraries.flatMap (·.2.types),
      ∀ p ∈ t.properParents, alias? p = none ∨ alias? p = some "stock" := by decide
  rcases aliases _ (mem_types_of_find? hb) p mem with none_ | stock
  · rw [hp] at none_
    cases none_
  · obtain rfl := Option.some.inj (hp.symm.trans stock)
    rfl

/-- A definition with the first library alone. -/
def shopAlone : Registry := ⟨[("shop", shopLibrary)], []⟩

/-- A parent with a point is not looked up in the library of the type, but in the library that the
definition happens to have under the alias: a type of the same library has other rows with it than
without. -/
theorem foreign_parent_captured :
    ¬ ∀ (registry other : Registry) (owner name : String), '.' ∉ owner.toList →
      Text.trimmed owner = owner → (registry.libraries.lookup owner).isSome →
      registry.SameLibrary other owner →
        (registry.tableOf (owner ++ "." ++ name)).value =
          (other.tableOf (owner ++ "." ++ name)).value := by
  intro all
  have same := all stocked shopAlone "shop" "Order" (by decide) rfl rfl rfl
  have order : stocked.find? "shop.Order" = some (some "shop", shopLibrary.types[0]) := rfl
  have box : stocked.Descends (some "shop", shopLibrary.types[0])
      (some "stock", stockLibrary.types[0]) :=
    .single ⟨"stock.Box", by decide, by decide, rfl⟩
  obtain ⟨before, after, rows⟩ := ownRows_infix_rows [] "shop.Order" order (descendsOutside_nil box)
  have held : Property.row { name := "size" } ∈ (shopAlone.tableOf "shop.Order").value.rows := by
    rw [← show (stocked.tableOf "shop.Order").value = (shopAlone.tableOf "shop.Order").value
      from same, tableOf, ← rows]
    exact List.mem_append_left _ (List.mem_append_right _ List.mem_cons_self)
  -- without the other library no ancestor has such a row
  obtain ⟨a, b, found, way, own⟩ := exists_ancestor_of_mem_rows [] "shop.Order" _ held
  obtain ⟨r, hb⟩ := exists_reference_of_descends found way
  have names : ∀ t ∈ shopAlone.types ++ shopAlone.libraries.flatMap (·.2.types),
      ∀ row ∈ t.ownRows, row.name ≠ "size" := by decide
  exact names _ (mem_types_of_find? hb) _ own rfl

/-! ## Types moved into a library -/

/-- A name without a point and without blanks at its ends. -/
def Simple (name : String) : Prop := '.' ∉ name.toList ∧ Text.trimmed name = name

instance (name : String) : Decidable (Simple name) := inferInstanceAs (Decidable (_ ∧ _))

theorem find?_append_of_simple (ho : Simple owner) (hn : Simple name) :
    registry.find? (owner ++ "." ++ name) =
      (registry.libraries.lookup owner).bind fun library =>
        (named? library.types name).map fun t => (some owner, t) := by
  have start := (Text.ends_of_trimmed ho.2).1
  have stop : String.ofList (Text.trimRight name.toList) = name := by
    rw [(Text.ends_of_trimmed hn.2).2, String.ofList_toList]
  unfold find?
  rw [splitAt_trimmed_append ho.1 start, stop, Text.splitAt_of_not_mem hn.1]

theorem qualify_of_simple (h : Simple name) (owner : String) :
    qualify (some owner) name = owner ++ "." ++ name :=
  if_neg (by simpa using h.1)

/-- A definition with one library and no types of its own. -/
def ofLibrary (owner : String) (library : Library) : Registry := ⟨[(owner, library)], []⟩

/-- A definition with types of its own and no library. -/
def ofTypes (types : List TypeDecl) : Registry := ⟨[], types⟩

theorem find?_ofLibrary (ho : Simple owner) (library : Library) (hn : Simple name) :
    (ofLibrary owner library).find? (owner ++ "." ++ name) =
      ((ofTypes library.types).find? name).map fun a => (some owner, a.2) := by
  rw [find?_append_of_simple ho hn, find?_of_not_mem hn.1 hn.2]
  simp [ofLibrary, ofTypes, Option.map_map, Function.comp_def]

/-- What the definition itself declares is known by the name that finds it. -/
theorem find?_ofTypes {types : List TypeDecl} {a : Declared} (hn : Simple name)
    (h : (ofTypes types).find? name = some a) : ∃ t ∈ types, a = (none, t) ∧ t.name = name := by
  rw [find?_of_not_mem hn.1 hn.2] at h
  obtain ⟨t, found, rfl⟩ := Option.map_eq_some_iff.mp h
  exact ⟨t, named?_mem found, rfl, name_eq_of_named? found⟩

theorem append_point_inj {owner a b : String} : owner ++ "." ++ a = owner ++ "." ++ b ↔ a = b := by
  constructor
  · intro same
    apply String.toList_injective
    simpa using congrArg String.toList same
  · exact fun same => same ▸ rfl

/-- The walk through a library meets the types that the walk through the same types in the
definition meets, and has passed through the same. -/
theorem tableAfter_ofLibrary {library : Library} (ho : Simple owner)
    (parents : ∀ t ∈ library.types, ∀ p ∈ t.parents, Simple p) (seen : List String)
    (name : String) :
    Simple name → ∀ passed : List String, (∀ n, owner ++ "." ++ n ∈ passed ↔ n ∈ seen) →
      ((ofLibrary owner library).tableAfter passed (owner ++ "." ++ name)).value =
        ((ofTypes library.types).tableAfter seen name).value := by
  induction seen, name using (ofTypes library.types).walk_induction with
  | unresolved seen name h =>
    intro hn passed _
    have moved := find?_ofLibrary ho library hn
    rw [h] at moved
    rw [tableAfter_of_unresolved h, tableAfter_of_unresolved moved]
  | met seen name a h met =>
    intro hn passed same
    have moved := find?_ofLibrary ho library hn
    rw [h] at moved
    obtain ⟨t, -, rfl, rfl⟩ := find?_ofTypes hn h
    have there : key (some owner, t) ∈ passed := by
      rw [key, qualify_of_simple hn owner]
      exact (same t.name).mpr met
    rw [tableAfter_of_met h met, tableAfter_of_met moved there]
  | new seen name a h new ih =>
    intro hn passed same
    have moved := find?_ofLibrary ho library hn
    rw [h] at moved
    obtain ⟨t, mem, rfl, rfl⟩ := find?_ofTypes hn h
    have known : key (some owner, t) = owner ++ "." ++ t.name := qualify_of_simple hn owner
    have there : key (some owner, t) ∉ passed := by
      rw [known]
      exact mt (same t.name).mp new
    have grown : ∀ n, owner ++ "." ++ n ∈ key (some owner, t) :: passed ↔
        n ∈ key (none, t) :: seen := by
      intro n
      rw [known, List.mem_cons, List.mem_cons, append_point_inj, same n]
      rfl
    refine tableAfter_eq_of_parents moved h there new fun p hp => ?_
    have simple := parents t mem p (List.mem_filter.mp hp).1
    rw [qualify_of_simple simple owner]
    exact ih p hp simple _ grown

/-- Types whose names and parents have no point have the same tables in a library as in the
definition itself, whatever cycles they form. -/
theorem tableOf_moved_to_library {library : Library} (ho : Simple owner)
    (parents : ∀ t ∈ library.types, ∀ p ∈ t.parents, Simple p) (hn : Simple name) :
    ((ofLibrary owner library).tableOf (owner ++ "." ++ name)).value =
      ((ofTypes library.types).tableOf name).value :=
  tableAfter_ofLibrary ho parents [] name hn [] (by simp)

/-- Types with a cycle, a parent that comes by two ways, one of the language and one missing. -/
def zooLibrary : Library where
  name := "zoo"
  types := [
    { name := "Animal", parents := ["Dog", "object"], properties := [{ name := "age" }] },
    { name := "Pet", parents := ["Animal", "Missing"], properties := [{ name := "owner" }] },
    { name := "Dog", parents := ["Pet", "Animal"], properties := [{ name := "breed" }] }]

theorem tableOf_dog :
    ((ofLibrary "zoo" zooLibrary).tableOf ("zoo" ++ "." ++ "Dog")).value =
      ((ofTypes zooLibrary.types).tableOf "Dog").value :=
  tableOf_moved_to_library (by decide) (by decide) (by decide)

end RamlDocs.Registry
