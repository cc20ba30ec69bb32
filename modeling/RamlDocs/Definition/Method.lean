import RamlDocs.Definition.Body
import RamlDocs.Logged
import RamlDocs.Template.Fill

/-!
# Methods and their traits

A trait completes a method: its placeholders are filled in, and the method says first. Traits of
the resource come before the method's own.
-/

namespace RamlDocs

open Template (Params)

/-- The methods of HTTP. -/
def httpMethods : List String :=
  ["get", "put", "post", "delete", "options", "head", "patch", "trace", "connect"]

/-- The method that a key of a resource names. -/
def httpMethod? : Key → Option String
  | .text s => if httpMethods.contains s then some s else none
  | _ => none

/-- The path of the resource that parameters were made for. -/
def Template.Params.resourcePath (params : Params) : String :=
  ((params.lookup "resourcePath").getD .null).display

/-- A trait and the parameters it is applied with. -/
abbrev TraitReference := String × Mapping

/-- The method mapping completed by one trait. -/
def Method.applyTrait (scope : Scope) (params : Params) (name : String) (m : Mapping)
    (reference : TraitReference) : Traced Mapping :=
  match scope.lookup "traits" reference.1 with
  | .map declared => do
    let filled ← Traced.ofExcept
      (Template.fillEntries
        (Params.ofMapping reference.2 ++ (("methodName", .text name) :: params)) [] declared)
    pure (m.merge filled)
  | _ => do
    Traced.note (.unknownTrait reference.1 name params.resourcePath)
    pure m

/-- The method mapping completed by traits, in order. -/
def Method.applyTraits (scope : Scope) (params : Params) (name : String) :
    Mapping → List TraitReference → Traced Mapping
  | m, [] => pure m
  | m, reference :: rest => do
    let m ← Method.applyTrait scope params name m reference
    Method.applyTraits scope params name m rest

/-- The response that is declared for a status code. -/
def Response.ofDeclaration (scope : Scope) (code : Key) (declared : Value) :
    Except Fault Response := do
  let code ← code.asText
  let description ← Facet.text? (Mapping.get declared.entries "description")
  let bodies ← Body.all scope (Mapping.get declared.entries "body")
  .ok { code, description, bodies }

/-- The method that a completed mapping describes. -/
def Method.ofMapping (scope : Scope) (name : String) (inherited : List (Option String))
    (m : Mapping) : Except Fault Method := do
  let description ← Facet.text? (m.get "description")
  let own ← Facet.securedBy (m.get "securedBy")
  let queryParameters ← Parameter.all (m.get "queryParameters") []
  let bodies ← Body.all scope (m.get "body")
  let responses ← (m.get "responses").entries.mapM fun e => Response.ofDeclaration scope e.1 e.2
  .ok {
    name
    description
    securedBy := if own.isEmpty then inherited else own
    queryParameters
    bodies
    responses
    annotations := scope.annotations m }

/-- The method that is declared under a name, with the traits and the security of its resource. -/
def Method.ofDeclaration (scope : Scope) (params : Params) (traits : List TraitReference)
    (inherited : List (Option String)) (name : String) (declared : Value) : Traced Method := do
  let own ← Traced.ofExcept (Facet.references (declared.entries.get "is"))
  let m ← Method.applyTraits scope params name declared.entries (traits ++ own)
  Traced.ofExcept (Method.ofMapping scope name inherited m)

end RamlDocs
