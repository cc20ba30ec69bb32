import RamlDocs.Definition.Basic
import RamlDocs.Text.Blank

/-!
# The registry of types

Types are referred to by name, or by the alias of a library, a point and a name.
`Registry.find?` resolves a reference, and `Registry.qualify` is the reference to a type as seen
from outside its library. A type is known by its qualified name (`Registry.keys`).
-/

namespace RamlDocs

/-- The libraries by alias, and the types of the definition itself. -/
structure Registry where
  libraries : List (String × Library)
  types : List TypeDecl

namespace Registry

/-- The types of a definition and its libraries. -/
def ofApi (api : Api) : Registry := ⟨api.libraries, api.types⟩

/-- The first type of a name. -/
def named? (types : List TypeDecl) (name : String) : Option TypeDecl :=
  types.find? (·.name == name)

/-- The type that a reference names, with the alias of its library. -/
def find? (registry : Registry) (reference : String) : Option (Option String × TypeDecl) :=
  match Text.splitAt '.' (Text.trimmed reference) with
  | [name] => (named? registry.types name).map fun t => (none, t)
  | [owner, name] =>
    (registry.libraries.lookup owner).bind fun library =>
      (named? library.types name).map fun t => (some owner, t)
  | _ => none

/-- The reference to `name` as seen from inside a library. A name with a point is a reference to
another library already. -/
def qualify (owner : Option String) (name : String) : String :=
  match owner with
  | none => name
  | some owner => if name.toList.contains '.' then name else owner ++ "." ++ name

/-- The qualified names of all types. -/
def keys (registry : Registry) : List String :=
  registry.types.map (·.name) ++
    registry.libraries.flatMap fun l => l.2.types.map fun t => qualify (some l.1) t.name

theorem named?_mem {types : List TypeDecl} {name : String} {t : TypeDecl}
    (h : named? types name = some t) : t ∈ types :=
  List.mem_of_find?_eq_some h

theorem lookup_mem {β : Type} {entries : List (String × β)} {name : String} {b : β}
    (h : entries.lookup name = some b) : (name, b) ∈ entries := by
  obtain ⟨before, after, split_, -⟩ := List.lookup_eq_some_iff.mp h
  exact split_ ▸ List.mem_append_right before List.mem_cons_self

/-- A type that is found is known by its key. -/
theorem qualify_mem_keys {registry : Registry} {reference : String} {owner : Option String}
    {t : TypeDecl} (h : registry.find? reference = some (owner, t)) :
    qualify owner t.name ∈ registry.keys := by
  unfold find? at h
  split at h
  · obtain ⟨u, hu, he⟩ := Option.map_eq_some_iff.1 h
    simp only [Prod.mk.injEq] at he
    obtain ⟨rfl, rfl⟩ := he
    exact List.mem_append_left _ (List.mem_map_of_mem (named?_mem hu))
  · obtain ⟨library, hl, hb⟩ := Option.bind_eq_some_iff.1 h
    obtain ⟨u, hu, he⟩ := Option.map_eq_some_iff.1 hb
    simp only [Prod.mk.injEq] at he
    obtain ⟨rfl, rfl⟩ := he
    refine List.mem_append_right _ (List.mem_flatMap.2 ⟨_, lookup_mem hl, ?_⟩)
    exact List.mem_map_of_mem (named?_mem hu)
  · simp at h

/-- The keys not yet passed through on the way to a type. -/
def unseen (registry : Registry) (seen : List String) : List String :=
  registry.keys.filter fun k => !seen.contains k

theorem unseen_length_lt {registry : Registry} {seen : List String} {key : String}
    (mem : key ∈ registry.keys) (new : key ∉ seen) :
    (registry.unseen (key :: seen)).length < (registry.unseen seen).length := by
  have split : registry.unseen (key :: seen) = (registry.unseen seen).filter (· != key) := by
    unfold unseen
    rw [List.filter_filter]
    congr 1
    funext k
    by_cases hk : k = key <;> simp [hk, bne]
  rw [split]
  refine List.length_filter_lt_length_iff_exists.2 ⟨key, ?_, by simp⟩
  simp [unseen, mem, new]

end Registry

end RamlDocs
