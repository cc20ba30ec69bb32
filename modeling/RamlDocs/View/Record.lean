import RamlDocs.View.Document

/-!
# Views as records

The names and the order of the fields under which a view is handed to templates.
-/

namespace RamlDocs

/-- The columns of a table. -/
def Header.toValue (h : Header) : Value :=
  .record [("name", .bool h.name), ("type", .bool h.type), ("description", .bool h.description),
    ("example", .bool h.exampleValue), ("default", .bool h.defaultValue),
    ("minLength", .bool h.minLength), ("maxLength", .bool h.maxLength),
    ("required", .bool h.required)]

mutual

/-- A row. -/
def Row.toValue : Row → Value
  | ⟨name, type, description, isRequired, exampleValue, defaultValue, minLength, maxLength,
      repeats, nested⟩ =>
    .record [("name", .text name), ("type", type), ("description", .ofText? description),
      ("isRequired", .ofBool? isRequired), ("example", exampleValue), ("default", defaultValue),
      ("minLength", .ofInt? minLength), ("maxLength", .ofInt? maxLength),
      ("repeat", .ofBool? repeats), ("nestedProperties", nestedValue nested)]

/-- A nested table, null for none. -/
def nestedValue : Option Table → Value
  | none => .null
  | some t => t.toValue

/-- A table. -/
def Table.toValue : Table → Value
  | ⟨header, rows⟩ => .record [("thead", header.toValue), ("tbody", .list (rowValues rows))]

/-- Rows. -/
def rowValues : List Row → List Value
  | [] => []
  | r :: rs => r.toValue :: rowValues rs

end

/-- A response schema: its table with the declaration beside it. -/
def ResponseSchema.toValue (s : ResponseSchema) : Value :=
  .record [("thead", s.table.header.toValue), ("tbody", .list (rowValues s.table.rows)),
    ("type", (s.type.map Value.map).getD .null)]

/-- An example. -/
def ResponseExample.toValue (e : ResponseExample) : Value :=
  .record [("code", .text e.code), ("description", .text e.description), ("response", e.response)]

/-- Examples, null for none. -/
def ResponseExample.listValue (es : Option (List ResponseExample)) : Value :=
  (es.map fun es => .list (es.map ResponseExample.toValue)).getD .null

/-- An endpoint. -/
def Endpoint.toValue (e : Endpoint) : Value :=
  .record [("uri", .text e.uri), ("method", .text e.method), ("securedBy", .text e.securedBy),
    ("description", .ofText? e.description), ("uriParameters", e.uriParameters.toValue),
    ("queryParameters", e.queryParameters.toValue), ("requestBody", e.requestBody.toValue),
    ("responseBody", e.responseBody.toValue),
    ("responseExample", ResponseExample.listValue e.responseExample),
    ("annotations", .list e.annotations)]

/-- A resource group. -/
def ResourceGroup.toValue (r : ResourceGroup) : Value :=
  .record [("uri", .text r.uri), ("name", .text r.name), ("description", .text r.description),
    ("type", .text r.type), ("endpoints", .list (r.endpoints.map Endpoint.toValue)),
    ("annotations", .list r.annotations)]

/-- A section of documentation. -/
def DocumentationSection.toValue (s : DocumentationSection) : Value :=
  .record [("title", .text s.title), ("content", .ofText? s.content)]

/-- A whole view. -/
def Document.toValue (d : Document) : Value :=
  .record [("apiTitle", .text d.title), ("ramlVersion", .text d.language),
    ("apiVersion", .text d.version), ("apiProtocol", .text d.protocol),
    ("apiBaseUri", .text d.baseUri), ("baseUriParameters", .list (d.baseUriParameters.map .map)),
    ("apiDescription", .text d.description),
    ("apiDocumentations", .list (d.documentation.map DocumentationSection.toValue)),
    ("apiSecuritySchemes", .list (d.securitySchemes.map .map)),
    ("apiSecuredBy", .map d.securedBy),
    ("apiResources", .list (d.resources.map ResourceGroup.toValue)),
    ("apiAllTypes", .map d.types), ("typeNamesArray", .list (d.typeNames.map .text)),
    ("apiAllSchemas", .list d.schemas)]

end RamlDocs
