import RamlDocs.Proofs.Definition.RepeatedTraits
import RamlDocs.Proofs.Template.PathName

/-!
# Names of paths in types and traits

Resource types and traits can use the name of the path of the resource that they are applied to. A
resource that lies under another by a variable alone has a path of the same name, so what types and
traits put in for the name is the same for both (`Resource.pathName_of_trailing_segment`). Those that
do not use the path as a whole are filled in to the same for both, faults included.
-/

namespace RamlDocs

open Template (Params)
open Uri (IsName pathName variableSegment)

namespace Resource

/-- Templates that are filled in for the resources at two paths find the same name of the path. -/
structure NamedAlike (scope : Scope) (uri other : String) : Prop where
  /-- The name is the same, whatever else a reference states. -/
  name : ∀ given : Params, (given ++ params uri).lookup "resourcePathName" =
    (given ++ params other).lookup "resourcePathName"
  /-- A resource type that does not use the path itself comes out the same. -/
  types : ∀ reference,
    Template.omits "resourcePath" (scope.lookup "resourceTypes" reference.1) = true →
      ResourceType.definition? scope (params uri) reference =
        ResourceType.definition? scope (params other) reference
  /-- So does a trait, for every method. -/
  traits : ∀ method reference,
    Template.omits "resourcePath" (scope.lookup "traits" reference.1) = true →
      Method.traitFilled scope (params uri) method reference =
        Method.traitFilled scope (params other) method reference

variable {scope : Scope} {uri other : String}

/-- The parameters of two paths of one name differ in the path at most. -/
theorem lookup_params (same : pathName uri = pathName other) (given : Params) (n : String)
    (differs : n ≠ "resourcePath") :
    (given ++ params uri).lookup n = (given ++ params other).lookup n := by
  have unlike : (n == "resourcePath") = false := by simpa using differs
  simp only [params, List.lookup_append, List.lookup_cons, unlike, same]

theorem namedAlike_of_pathName (same : pathName uri = pathName other) :
    NamedAlike scope uri other where
  name given := lookup_params same given _ (by decide)
  types reference omitted := by
    unfold ResourceType.definition?
    split
    next template found =>
      rw [found] at omitted
      rw [Template.fillEntries_congr (lookup_params same _) omitted]
    next => rfl
  traits method reference omitted := by
    unfold Method.traitFilled
    split
    next template found =>
      rw [found] at omitted
      refine Template.fillEntries_congr (fun n differs => ?_) omitted []
      have alike := lookup_params same
        (Params.ofMapping reference.2 ++ [("methodName", .text method)]) n differs
      simpa using alike
    next => rfl

/-- Segments at the end of a path that are empty or a variable leave the name of the path as it is,
and any other segment is the name. So a resource that lies under another by a variable alone is
expanded with parameters in which types and traits find the name that they find for the other. -/
theorem pathName_of_trailing_segment :
    (∀ path x, IsName x → pathName (path ++ "/" ++ variableSegment x) = pathName path) ∧
      (∀ path, pathName (path ++ "/") = pathName path) ∧
      (∀ path s, s ≠ "" → '/' ∉ s.toList → (∀ x, IsName x → s ≠ variableSegment x) →
        pathName (path ++ "/" ++ s) = s) ∧
      ∀ scope parentUri depth declared r m, Expansion scope parentUri depth declared r m →
        ∀ child ∈ r.children, ∀ x, IsName x → child.relativeUri = "/" ++ variableSegment x →
          ∃ below v inner, (child.relativeUri, v) ∈ childrenOf m ∧
            Expansion scope r.uri below (child.relativeUri, v) child inner ∧
            NamedAlike scope child.uri r.uri := by
  refine ⟨fun path x name => Uri.pathName_append_variable name path, Uri.pathName_append_slash,
    fun path s nonempty single other => Uri.pathName_append_segment nonempty single other path, ?_⟩
  intro scope parentUri depth declared r m h child mem x name variable_
  obtain ⟨below, ⟨relativeUri, v⟩, inner, key, expansion⟩ := h.exists_child mem
  obtain rfl : child.relativeUri = relativeUri := expansion.relativeUri
  refine ⟨below, v, inner, key, expansion, namedAlike_of_pathName ?_⟩
  rw [expansion.uri, variable_, ← String.append_assoc]
  exact Uri.pathName_append_variable name r.uri

/-- A type and a trait that use the name of the path. -/
def shelvesScope : Scope where
  root := [("resourceTypes", .record [("item", .record [
        ("displayName", .text "One of <<resourcePathName>>")])]),
      ("traits", .record [("logged", .record [
        ("description", .text "<<methodName>> in <<resourcePathName | !uppercase>>")])])].map
    fun e => (.text e.1, e.2)
  libraries := []
  mediaType := "application/json"

/-- A resource with another below it by a variable alone. -/
def shelves : String × Value :=
  ("/shelves", .record [("/\x7bshelf\x7d", .record [
    ("type", .text "item"), ("is", .text "logged"), ("get", .null)])])

theorem pathName_of_trailing_segment_shelves :
    pathName ("//a/\x7b" ++ "/" ++ variableSegment "id") = pathName "//a/\x7b" ∧
      pathName ("//a/\x7b" ++ "/") = pathName "//a/\x7b" ∧
      pathName ("//a/\x7b" ++ "/" ++ "\x7bid\x7d.json") = "\x7bid\x7d.json" ∧
      ∃ r child m below v inner, Expansion shelvesScope "" 1 shelves r m ∧ child ∈ r.children ∧
        child.relativeUri = "/" ++ variableSegment "shelf" ∧
        (child.relativeUri, v) ∈ childrenOf m ∧
        Expansion shelvesScope r.uri below (child.relativeUri, v) child inner ∧
        NamedAlike shelvesScope child.uri r.uri ∧ child.displayName = some "One of shelves" ∧
        child.methods.map (·.description) = [some "get in SHELVES"] := by
  have shown : (ofDeclaration shelvesScope "" 2 shelves).outcome.toOption.map
      (fun r => r.children.map fun c =>
        (c.relativeUri, c.displayName, c.methods.map (·.description))) =
      some [("/" ++ variableSegment "shelf", some "One of shelves", [some "get in SHELVES"])] := by
    decide +kernel
  obtain ⟨r, came, children⟩ := exists_ok_of_toOption shown
  obtain ⟨depth, m, deep, expansion⟩ := expansion_of_ofDeclaration came
  obtain rfl : 1 = depth := Nat.succ.inj deep
  obtain ⟨child, only, parts⟩ := List.map_eq_singleton_iff.mp children
  obtain ⟨variable_, parts⟩ := Prod.mk.inj parts
  obtain ⟨displayName, descriptions⟩ := Prod.mk.inj parts
  have mem : child ∈ r.children := only ▸ List.mem_singleton_self child
  have isName : ∀ x ∈ ["id", "shelf"], IsName x := by
    intro x mem
    exact Uri.isName_iff.mpr (by revert x; decide)
  obtain ⟨after, slash, segment, nested⟩ := pathName_of_trailing_segment
  obtain ⟨below, v, inner, key, nestedExpansion, alike⟩ := nested shelvesScope "" 1 shelves r m
    expansion child mem "shelf" (isName _ (by decide)) variable_
  refine ⟨after _ _ (isName _ (by decide)), slash _, segment _ _ (by decide) (by decide) ?_,
    r, child, m, below, v, inner, expansion, mem, variable_, key, nestedExpansion, alike,
    displayName, descriptions⟩
  intro x name same
  exact absurd (Uri.isVariable_iff.mpr ⟨x, name, same⟩) (by decide)

end Resource

end RamlDocs
