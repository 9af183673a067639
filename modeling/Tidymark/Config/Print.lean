import Tidymark.Config
import Tidymark.Yaml.Print

/-!
# Settings in writing

All settings as a settings file in YAML.
-/

namespace Tidymark

namespace Config

/-- A setting as a line, or as several if its value has several. -/
def setting (name : String) (value : Text) : Text :=
  "  ".toList ++ name.toList ++ ": ".toList ++ value

def flag (b : Bool) : Text := if b then "true".toList else "false".toList

def integer : Int → Text
  | .ofNat n => Text.ofNat n
  | .negSucc n => '-' :: Text.ofNat (n + 1)

def texts (name : String) (values : List Text) : List Text :=
  match values with
  | [] => [setting name "[]".toList]
  | _ =>
      ("  ".toList ++ name.toList ++ [':']) ::
        values.map fun s => "  - ".toList ++ Yaml.written 4 s

def yamlLines (c : Config) : List Text :=
  [("line_width: ".toList ++ Text.ofNat c.lineWidth),
    "heading:".toList,
    setting "style" (Yaml.written 4 c.heading.style.token),
    setting "normalize_levels" (flag c.heading.normalizeLevels),
    "list:".toList,
    setting "bullet_style" (Yaml.written 4 c.list.bulletStyle.token),
    setting "number_style" (Yaml.written 4 c.list.numberStyle.token),
    setting "consistent_indentation" (flag c.list.consistentIndentation),
    "code:".toList,
    setting "fence_style" (Yaml.written 4 c.code.fenceStyle.token),
    setting "language_detection" (flag c.code.languageDetection),
    "whitespace:".toList,
    setting "max_blank_lines" (integer c.whitespace.maxBlankLines),
    setting "trim_trailing_spaces" (flag c.whitespace.trimTrailingSpaces),
    setting "ensure_final_newline" (flag c.whitespace.ensureFinalNewline),
    "files:".toList] ++
  texts "extensions" c.files.extensions ++ texts "ignore_patterns" c.files.ignorePatterns

/-- The settings as a settings file. -/
def toYaml (c : Config) : Text := Text.joinLines c.yamlLines ++ ['\n']

end Config

end Tidymark
