import RamlDocs.Definition.Method

/-!
# Resource types

A resource type completes the mapping of a resource. It may itself have a type, which completes
its definition first; the chain of types is followed for nine definitions at most. A method marked
with a question mark completes only a method that the mapping has.
-/

namespace RamlDocs

open Template (Params)

namespace ResourceType

/-- The number of definitions that a chain of types may apply. -/
def chainLimit : Nat := 9

/-- The method that is marked as optional by a key. -/
def optionalMethod? : Key → Option String
  | .text s =>
    let cs := s.toList
    if cs.getLast? == some '?' then httpMethod? (.text (String.ofList cs.dropLast)) else none
  | _ => none

/-- Where a key of a definition goes in the resource `m`: nowhere for the type and for optional
methods that `m` does not have. -/
def target? (m : Mapping) (k : Key) : Option Key :=
  if k = .text "type" then none
  else
    match optionalMethod? k with
    | some method => if Mapping.has m method then some (.text method) else none
    | none => some k

/-- The value of a method with its name filled in; any other value as it is. -/
def fillMethod (k : Key) (v : Value) : Except Fault Value :=
  match httpMethod? k with
  | some method => Template.fill [("methodName", .text method)] v
  | none => .ok v

/-- What a definition contributes to the resource `m`, put after `done`. -/
def contribution (m : Mapping) (done : Mapping) : List (Key × Value) → Except Fault Mapping
  | [] => .ok done
  | (k, v) :: definition =>
    match target? m k with
    | none => contribution m done definition
    | some l => do
      let w ← fillMethod l v
      contribution m (done.put l w) definition

/-- The resource `m` completed by what a definition contributes. The traits of both apply, those
of the resource first. -/
def complete (m applied : Mapping) : Mapping :=
  let traits := Facet.asList (m.get "is") ++ Facet.asList (applied.get "is")
  let merged := Mapping.merge (m.without "type") applied
  if traits.isEmpty then merged else merged.set "is" (.list traits)

/-- The type that a mapping names first, with the parameters it is applied with. -/
def reference? (m : Mapping) : Except Fault (Option (String × Mapping)) :=
  (Facet.references (m.get "type")).map List.head?

/-- The definition that a reference names, with its placeholders filled in; none if the name is not
that of a mapping. -/
def definition? (scope : Scope) (params : Params) (reference : String × Mapping) :
    Except Fault (Option Mapping) :=
  match scope.lookup "resourceTypes" reference.1 with
  | .map declared =>
    (Template.fillEntries (Params.ofMapping reference.2 ++ params) [] declared).map some
  | _ => .ok none

/-- A mapping that is left as it is, with a note that its type is not known. -/
def leave (params : Params) (name : String) (m : Mapping) : Traced (Option String × Mapping) := do
  Traced.note (.unknownResourceType name params.resourcePath)
  pure (some name, m)

/-- The name of the type of a mapping, and the mapping completed by at most `limit` definitions
along the chain of types. -/
def apply (scope : Scope) (params : Params) : Nat → Mapping → Traced (Option String × Mapping)
  | 0, m => do
    match ← Traced.ofExcept (reference? m) with
    | none => pure (none, m)
    | some reference => leave params reference.1 m
  | limit + 1, m => do
    match ← Traced.ofExcept (reference? m) with
    | none => pure (none, m)
    | some reference =>
      match ← Traced.ofExcept (definition? scope params reference) with
      | none => leave params reference.1 m
      | some filled => do
        let (_, definition) ← apply scope params limit filled
        let applied ← Traced.ofExcept (contribution m [] definition)
        pure (some reference.1, complete m applied)

end ResourceType

end RamlDocs
