import RamlDocs.Markdown.Inline
import RamlDocs.Markdown.RawHtml

/-!
# Markdown

Texts with marks for headings, lists, quotes, code, emphasis and links, shown as HTML.
-/

namespace RamlDocs.Markdown

/-- A text as HTML. Blank text shows nothing. -/
def toHtml (s : String) : String :=
  if Text.isAllBlank s then ""
  else
    let (text, blocks) := RawHtml.extract (RawHtml.normalise s.toList)
    let (root, targets) := Block.parse text
    String.ofList (Inline.resolve targets (RawHtml.restoreAll blocks root)).content

end RamlDocs.Markdown
