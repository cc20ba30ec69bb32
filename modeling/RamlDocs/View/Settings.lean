import RamlDocs.Markdown

/-!
# Settings of a view

How descriptions are shown, which response counts as the successful one, and which part of the
base URI stands for the version.
-/

namespace RamlDocs

/-- Settings of a view. -/
structure Settings where
  renderMarkdown : Bool := true
  responseCode : String := "200"
  versionPlaceholder : String := "\x7bversion\x7d"
  deriving DecidableEq, Repr

/-- The text to show for a description; none for an empty one. -/
def Settings.render (settings : Settings) (description : Option String) : Option String :=
  match description with
  | none => none
  | some s =>
    if s == "" then none else if settings.renderMarkdown then some (Markdown.toHtml s) else some s

end RamlDocs
