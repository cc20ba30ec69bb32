import RamlDocs.Definition.Resource

/-!
# Scopes that agree

A resource is expanded in the scope of the whole definition. What it asks the scope for are the
traits, the resource types and the types of annotations of a name, the schema behind the name of a
type, and the media type of bodies. Two scopes that answer these questions alike
(`Scope.Agrees`) expand every resource alike, notes included (`Scope.Agrees.ofDeclaration`).
-/

namespace RamlDocs

open Template (Params)

/-- The kinds of declarations that are looked up by name. -/
def lookupKinds : List String := ["traits", "resourceTypes", "annotationTypes"]

/-- Two scopes give the same answers where a completed mapping is read: they know the same types of
annotations, the same schemas and the same media type. -/
structure Scope.ReadsAlike (s t : Scope) : Prop where
  annotationType? : ∀ name, s.annotationType? name = t.annotationType? name
  schema? : ∀ name, s.schema? name = t.schema? name
  mediaType : s.mediaType = t.mediaType

namespace Scope.ReadsAlike

variable {s t : Scope}

theorem annotations (h : s.ReadsAlike t) (m : Mapping) : s.annotations m = t.annotations m := by
  unfold Scope.annotations
  simp only [h.annotationType?]

theorem bodyOfDeclaration (h : s.ReadsAlike t) (mediaType : String) (v : Value) :
    Body.ofDeclaration s mediaType v = Body.ofDeclaration t mediaType v := by
  unfold Body.ofDeclaration
  simp only [h.schema?]

theorem bodies (h : s.ReadsAlike t) (v : Value) : Body.all s v = Body.all t v := by
  have entries : Body.ofEntry s = Body.ofEntry t := by
    funext e
    unfold Body.ofEntry
    simp only [h.bodyOfDeclaration]
  unfold Body.all
  simp only [entries, h.mediaType, h.bodyOfDeclaration]

theorem responseOfDeclaration (h : s.ReadsAlike t) (code : Key) (v : Value) :
    Response.ofDeclaration s code v = Response.ofDeclaration t code v := by
  unfold Response.ofDeclaration
  simp only [h.bodies]

theorem methodOfMapping (h : s.ReadsAlike t) (name : String) (inherited : List (Option String))
    (m : Mapping) : Method.ofMapping s name inherited m = Method.ofMapping t name inherited m := by
  unfold Method.ofMapping
  simp only [h.bodies, h.responseOfDeclaration, h.annotations]

end Scope.ReadsAlike

/-- Two scopes give the same answers. -/
structure Scope.Agrees (s t : Scope) : Prop where
  lookup : ∀ kind ∈ lookupKinds, ∀ name, s.lookup kind name = t.lookup kind name
  schema? : ∀ name, s.schema? name = t.schema? name
  mediaType : s.mediaType = t.mediaType

namespace Scope.Agrees

variable {s t : Scope}

theorem readsAlike (h : s.Agrees t) : s.ReadsAlike t where
  annotationType? name := by
    unfold Scope.annotationType?
    rw [h.lookup "annotationTypes" (by decide)]
  schema? := h.schema?
  mediaType := h.mediaType

/-! ## Methods -/

theorem applyTraits (h : s.Agrees t) (params : Params) (name : String) (m : Mapping)
    (references : List TraitReference) :
    Method.applyTraits s params name m references =
      Method.applyTraits t params name m references := by
  have one : Method.applyTrait s params name = Method.applyTrait t params name := by
    funext m reference
    unfold Method.applyTrait
    rw [h.lookup "traits" (by decide)]
  induction references generalizing m with
  | nil => rfl
  | cons reference references ih => simp only [Method.applyTraits, one, ih]

theorem methodOfDeclaration (h : s.Agrees t) (params : Params) (traits : List TraitReference)
    (inherited : List (Option String)) (name : String) (v : Value) :
    Method.ofDeclaration s params traits inherited name v =
      Method.ofDeclaration t params traits inherited name v := by
  unfold Method.ofDeclaration
  simp only [h.applyTraits, h.readsAlike.methodOfMapping]

/-! ## Resources -/

theorem applyType (h : s.Agrees t) (params : Params) (limit : Nat) (m : Mapping) :
    ResourceType.apply s params limit m = ResourceType.apply t params limit m := by
  have definitions : ResourceType.definition? s params = ResourceType.definition? t params := by
    funext reference
    unfold ResourceType.definition?
    rw [h.lookup "resourceTypes" (by decide)]
  induction limit generalizing m with
  | zero => rfl
  | succ limit ih =>
    unfold ResourceType.apply
    simp only [definitions, ih]

/-- A resource is expanded alike in scopes that agree. -/
theorem ofDeclaration (h : s.Agrees t) (parentUri : String) (depth : Nat)
    (declared : String × Value) :
    Resource.ofDeclaration s parentUri depth declared =
      Resource.ofDeclaration t parentUri depth declared := by
  induction depth generalizing parentUri declared with
  | zero => rfl
  | succ depth ih =>
    unfold Resource.ofDeclaration Resource.methodsOf
    have below : ∀ uri, Resource.ofDeclaration s uri depth = Resource.ofDeclaration t uri depth :=
      fun uri => funext (ih uri)
    simp only [h.applyType, h.methodOfDeclaration, h.readsAlike.annotations, below]

end Scope.Agrees

end RamlDocs
