import Tidymark.Config.Decode
import Tidymark.Config.Validity
import Tidymark.Json
import Tidymark.Text.Blank
import Tidymark.Toml
import Tidymark.Yaml

/-!
# Reading settings files

A settings file is in one of three formats, which its extension tells.
-/

namespace Tidymark

/-- The format that a file extension tells.  The case of ASCII letters does not matter. -/
def ConfigFormat.ofExtension? (extension : Text) : Option ConfigFormat :=
  let lower := String.ofList (extension.map Char.toLower)
  if lower = "yaml" ∨ lower = "yml" then some .yaml
  else if lower = "json" then some .json
  else if lower = "toml" then some .toml
  else none

namespace Config

/-- The settings that a text describes in a format.  A YAML text of blanks describes the
defaults. -/
def ofText? (format : ConfigFormat) (s : Text) : Option Config :=
  match format with
  | .yaml =>
      if Text.isAllBlank s then some {} else (Value.ofYaml? s).bind (ofValue? Yaml.dialect)
  | .json => (Value.ofJson? s).bind (ofValue? Json.dialect)
  | .toml => (Value.ofToml? s).bind (ofValue? Toml.dialect)

def ofText (format : ConfigFormat) (s : Text) : Except Failure Config :=
  match ofText? format s with
  | some c => .ok c
  | none => .error (.malformed format)

end Config

end Tidymark
