import RamlDocs.Proofs.View.Walk

/-!
# What each setting decides

Every setting has a part of the view that it decides, and no other. Whether Markdown is turned into
HTML changes the texts that are shown and nothing else, not even which columns a table has; the
status code changes the bodies of responses; the placeholder changes the base URI
(`settings_decide_their_parts`). A part is left out of a view by a function, so that two views that
agree outside of it are two views that are equal without it.

Nothing is used of Markdown but that it makes a text of a text. So the law is stated of the view
with any such function in its place (`Api.documentBy`); the view itself is the one for the Markdown
of this library (`Api.outcome_document`). Which texts are missing is decided before they are
rendered (`Settings.isSome_renderBy`): for this reason the columns stay.
-/

namespace RamlDocs

/-! ## Views that show Markdown in another way -/

/-- The text to show for a description if Markdown is shown by `html`. -/
def Settings.renderBy (html : String → String) (settings : Settings) :
    Option String → Option String
  | none => none
  | some s => if s == "" then none else if settings.renderMarkdown then some (html s) else some s

/-- The endpoint of a method if descriptions are shown by `render`. -/
def Method.endpointBy (render : Option String → Option String) (code : String)
    (registry : Registry) (r : Resource) (m : Method) : Endpoint where
  uri := r.uri
  method := Text.lowercased m.name
  securedBy := (firstScheme? m.securedBy).getD ""
  description := render m.description
  uriParameters := Parameter.uriTable render r.uriParameters
  queryParameters := Parameter.queryTable render m.queryParameters
  requestBody := (Body.requestTable registry m.bodies).value
  responseBody := (Response.schemaFor code m.responses).value
  responseExample := Response.allExamples m.responses
  annotations := m.annotations.map Annotation.toValue

/-- A resource as a group if descriptions are shown by `render`. -/
def Resource.groupBy (render : Option String → Option String) (code : String)
    (registry : Registry) (r : Resource) : ResourceGroup where
  uri := r.uri
  name := r.shownName
  description := r.description.getD ""
  type := r.type.getD ""
  endpoints := r.walk.map fun e => e.2.endpointBy render code registry e.1
  annotations := r.annotations.map Annotation.toValue

/-- The view of a definition with the given root if Markdown is shown by `html`. -/
def Api.documentForBy (html : String → String) (api : Api) (settings : Settings)
    (root : Mapping) : Document where
  title := api.title
  language := api.language
  version := api.version.getD ""
  protocol := api.protocolLine
  baseUri := api.shownBaseUri settings.versionPlaceholder
  baseUriParameters := api.shownBaseUriParameters
  description := (settings.renderBy html api.description).getD ""
  documentation := api.documentation.map fun page =>
    { title := page.title, content := settings.renderBy html page.content }
  securitySchemes := api.securitySchemes.map (·.raw)
  securedBy := api.securingScheme
  resources := (Resource.distinct api.resources).map
    (Resource.groupBy (settings.renderBy html) settings.responseCode (Registry.ofApi api))
  types := shownTypes root
  typeNames := entryNames (shownTypes root)
  schemas := (shownSchemas root).value

/-- The view of a definition if Markdown is shown by `html`. -/
def Api.documentBy (html : String → String) (api : Api) (settings : Settings) :
    Except Fault Document :=
  api.root.map (api.documentForBy html settings)

theorem Settings.renderBy_toHtml (settings : Settings) :
    settings.renderBy Markdown.toHtml = settings.render := by
  funext description
  cases description <;> rfl

theorem Resource.value_group (registry : Registry) (settings : Settings) (r : Resource) :
    (r.group registry settings).value =
      r.groupBy settings.render settings.responseCode registry := by
  have endpoints : (r.endpoints registry settings).value =
      r.walk.map fun e =>
        e.2.endpointBy settings.render settings.responseCode registry e.1 :=
    Resource.endpoints_eq_walk registry settings r
  unfold Resource.group Resource.groupBy
  simp only [Logged.value_bind, Logged.value_pure, endpoints]

/-- The view is that with Markdown shown as this library shows it. -/
theorem Api.outcome_document (api : Api) (settings : Settings) :
    (api.document settings).outcome = api.documentBy Markdown.toHtml settings := by
  unfold Api.document Api.documentBy
  rw [Traced.outcome_bind, Traced.outcome_ofExcept]
  cases api.root with
  | error f => rfl
  | ok root =>
    have shown : (api.documentFor settings root).value =
        api.documentForBy Markdown.toHtml settings root := by
      unfold Api.documentFor Api.documentForBy
      simp only [Logged.value_bind, Logged.value_pure, Resource.groups_eq_distinct,
        Resource.value_group, settings.renderBy_toHtml]
    exact congrArg Except.ok shown

/-! ## Parts left out -/

/-- A table without the descriptions in its rows; its header stays. -/
def Table.withoutDescriptions (t : Table) : Table :=
  ⟨t.header, t.rows.map fun r => { r with description := none }⟩

/-- An endpoint without its description and those of its URI and query parameters. -/
def Endpoint.withoutTexts (e : Endpoint) : Endpoint :=
  { e with
    description := none
    uriParameters := e.uriParameters.withoutDescriptions
    queryParameters := e.queryParameters.withoutDescriptions }

/-- An endpoint without the body of its response. -/
def Endpoint.withoutResponseBody (e : Endpoint) : Endpoint :=
  { e with responseBody := ⟨.empty, none⟩ }

/-- A group with its endpoints changed by `f`. -/
def ResourceGroup.mapEndpoints (f : Endpoint → Endpoint) (g : ResourceGroup) : ResourceGroup :=
  { g with endpoints := g.endpoints.map f }

/-- A view without the texts that may be Markdown: its description, the contents of its
documentation and the texts of its endpoints. -/
def Document.withoutTexts (d : Document) : Document :=
  { d with
    description := ""
    documentation := d.documentation.map fun page => { page with content := none }
    resources := d.resources.map (ResourceGroup.mapEndpoints Endpoint.withoutTexts) }

/-- A view without the bodies of responses. -/
def Document.withoutResponseBodies (d : Document) : Document :=
  { d with resources := d.resources.map (ResourceGroup.mapEndpoints Endpoint.withoutResponseBody) }

/-- A view without the base URI. -/
def Document.withoutBaseUri (d : Document) : Document := { d with baseUri := "" }

/-! ## Texts -/

/-- Whether there is a text to show does not depend on how it is shown. -/
theorem Settings.isSome_renderBy (html : String → String) (settings : Settings)
    (description : Option String) :
    (settings.renderBy html description).isSome = (description.filter (· != "")).isSome := by
  cases description with
  | none => rfl
  | some s =>
    by_cases empty : s = ""
    · simp [renderBy, empty]
    · by_cases markdown : settings.renderMarkdown = true <;>
        simp [renderBy, empty, markdown, Option.filter]

/-- Tables whose rows differ in descriptions alone, and have them in the same places, have the same
header. -/
theorem Table.withoutDescriptions_ofRows {α : Type} {f g : α → Row} {as : List α}
    (same : ∀ a, { f a with description := none } = { g a with description := none })
    (both : ∀ a, (f a).description.isSome = (g a).description.isSome) :
    (ofRows (as.map f)).withoutDescriptions = (ofRows (as.map g)).withoutDescriptions := by
  have field : ∀ {β : Type} (p : Row → β),
      (∀ r : Row, p { r with description := none } = p r) → ∀ a, p (f a) = p (g a) := by
    intro β p blind a
    rw [← blind (f a), same a, blind (g a)]
  have headers : headerOf (as.map f) = headerOf (as.map g) := by
    unfold headerOf
    simp only [List.any_map, Function.comp_def, List.isEmpty_map, both,
      field (·.type) fun _ => rfl, field (·.exampleValue) fun _ => rfl,
      field (·.defaultValue) fun _ => rfl, field (·.minLength) fun _ => rfl,
      field (·.maxLength) fun _ => rfl, field (·.isRequired) fun _ => rfl]
  simp only [withoutDescriptions, ofRows, headers, List.map_map, Function.comp_def, same]

section Texts

variable {render other : Option String → Option String}
  (both : ∀ description, (render description).isSome = (other description).isSome)

include both

theorem Parameter.withoutDescriptions_uriTable (ps : List Parameter) :
    (uriTable render ps).withoutDescriptions = (uriTable other ps).withoutDescriptions :=
  Table.withoutDescriptions_ofRows (fun _ => rfl) fun p => both p.description

theorem Parameter.withoutDescriptions_queryTable (ps : List Parameter) :
    (queryTable render ps).withoutDescriptions = (queryTable other ps).withoutDescriptions :=
  Table.withoutDescriptions_ofRows (fun _ => rfl) fun p => both p.description

theorem Method.withoutTexts_endpointBy (code : String) (registry : Registry) (r : Resource)
    (m : Method) :
    (m.endpointBy render code registry r).withoutTexts =
      (m.endpointBy other code registry r).withoutTexts := by
  unfold Endpoint.withoutTexts Method.endpointBy
  simp only [Parameter.withoutDescriptions_uriTable both,
    Parameter.withoutDescriptions_queryTable both]

end Texts

/-! ## Views -/

/-- Groups are equal once their endpoints are changed if the endpoints are, each by each. -/
theorem Resource.mapEndpoints_groupBy {render other : Option String → Option String}
    (code code' : String) {registry : Registry} {f : Endpoint → Endpoint}
    (same : ∀ (r : Resource) (m : Method),
      f (m.endpointBy render code registry r) = f (m.endpointBy other code' registry r))
    (rs : List Resource) :
    (rs.map (Resource.groupBy render code registry)).map (ResourceGroup.mapEndpoints f) =
      (rs.map (Resource.groupBy other code' registry)).map (ResourceGroup.mapEndpoints f) := by
  simp only [List.map_map, Function.comp_def, ResourceGroup.mapEndpoints, Resource.groupBy, same]

variable {html : String → String} {api : Api} {settings : Settings} {root : Mapping}

theorem Api.withoutTexts_documentForBy (markdown : Bool) :
    (api.documentForBy html { settings with renderMarkdown := markdown } root).withoutTexts =
      (api.documentForBy html settings root).withoutTexts := by
  have both : ∀ description,
      (Settings.renderBy html { settings with renderMarkdown := markdown } description).isSome =
        (settings.renderBy html description).isSome := by
    intro description
    rw [Settings.isSome_renderBy, Settings.isSome_renderBy]
  unfold Document.withoutTexts Api.documentForBy
  simp only [Resource.mapEndpoints_groupBy _ _ (Method.withoutTexts_endpointBy both _ _),
    List.map_map, Function.comp_def]

theorem Api.withoutResponseBodies_documentForBy (code : String) :
    (api.documentForBy html { settings with responseCode := code } root).withoutResponseBodies =
      (api.documentForBy html settings root).withoutResponseBodies := by
  have render : Settings.renderBy html { settings with responseCode := code } =
      settings.renderBy html := by
    funext description
    cases description <;> rfl
  unfold Document.withoutResponseBodies Api.documentForBy
  rw [render, Resource.mapEndpoints_groupBy code settings.responseCode
    (f := Endpoint.withoutResponseBody) fun _ _ => rfl]

theorem Api.withoutBaseUri_documentForBy (placeholder : String) :
    (api.documentForBy html { settings with versionPlaceholder := placeholder }
        root).withoutBaseUri =
      (api.documentForBy html settings root).withoutBaseUri := by
  have render : Settings.renderBy html { settings with versionPlaceholder := placeholder } =
      settings.renderBy html := by
    funext description
    cases description <;> rfl
  unfold Document.withoutBaseUri Api.documentForBy
  rw [render]

/-- What is the same of the views for every root is the same of the views. -/
theorem Api.map_documentBy {s t : Settings} {f : Document → Document}
    (same : ∀ root, f (api.documentForBy html s root) = f (api.documentForBy html t root)) :
    (api.documentBy html s).map f = (api.documentBy html t).map f := by
  unfold Api.documentBy
  cases api.root with
  | error fault => rfl
  | ok root => exact congrArg Except.ok (same root)

/-- Each setting decides its own part of the view, whatever is shown for Markdown, and whether there
is a view does not depend on any: whether Markdown is rendered decides the texts, the status code
the bodies of responses, and the placeholder the base URI. -/
theorem Api.settings_decide_their_parts (html : String → String) (api : Api) (settings : Settings) :
    (api.document settings).outcome = api.documentBy Markdown.toHtml settings ∧
      (∀ markdown : Bool,
        (api.documentBy html { settings with renderMarkdown := markdown }).map
            Document.withoutTexts =
          (api.documentBy html settings).map Document.withoutTexts) ∧
      (∀ code : String,
        (api.documentBy html { settings with responseCode := code }).map
            Document.withoutResponseBodies =
          (api.documentBy html settings).map Document.withoutResponseBodies) ∧
      ∀ placeholder : String,
        (api.documentBy html { settings with versionPlaceholder := placeholder }).map
            Document.withoutBaseUri =
          (api.documentBy html settings).map Document.withoutBaseUri :=
  ⟨api.outcome_document settings,
    fun markdown => map_documentBy fun _ => withoutTexts_documentForBy markdown,
    fun code => map_documentBy fun _ => withoutResponseBodies_documentForBy code,
    fun placeholder => map_documentBy fun _ => withoutBaseUri_documentForBy placeholder⟩

end RamlDocs
