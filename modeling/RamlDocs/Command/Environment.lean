import RamlDocs.Text.Letter
import RamlDocs.View.Settings

/-!
# Settings from the environment

Two environment variables set how descriptions are shown and which response counts.
-/

namespace RamlDocs.Settings

/-- The boolean that a word spells, in any case. -/
def readBool? (s : String) : Option Bool :=
  let word := Text.lowercased s
  if ["true", "t", "yes", "y", "on", "1"].contains word then some true
  else if ["false", "f", "no", "n", "off", "0"].contains word then some false
  else none

/-- The settings of an environment, or the name of the setting that cannot be read. -/
def ofEnvironment (environment : List (String × String)) : Except String Settings :=
  let code := (environment.lookup "RAMLVIEW_RESPONSE_SCHEMA_CODE").getD "200"
  match environment.lookup "RAMLVIEW_RENDER_MARKDOWN" with
  | none => .ok { responseCode := code }
  | some s =>
    match readBool? s with
    | some b => .ok { renderMarkdown := b, responseCode := code }
    | none => .error "render_markdown"

end RamlDocs.Settings
