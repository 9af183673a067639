import Tidymark.Config.Value

/-!
# Settings from values

A section is a map from the names of its settings, or a list of them in
order.  What is not given keeps its default, unknown names are passed over,
and a name given twice is refused.
-/

namespace Tidymark

/-- A setting of a section: its name, and how its value changes the section. -/
structure Setting (σ : Type) where
  name : Text
  put : Value → σ → Option σ

namespace Setting

variable {σ : Type}

/-- The settings given as the entries of a map, those in `seen` having been given already. -/
def putEntries (settings : List (Setting σ)) (seen : List Text) :
    List (Option Text × Value) → σ → Option σ
  | [], s => some s
  | (none, _) :: _, _ => none
  | (some key, v) :: rest, s =>
      match settings.find? (·.name == key) with
      | none => putEntries settings seen rest s
      | some setting =>
          if seen.contains key then none
          else (setting.put v s).bind (putEntries settings (key :: seen) rest)

def putInOrder (surplus : Bool) : List (Setting σ) → List Value → σ → Option σ
  | _, [], s => some s
  | [], _ :: _, s => if surplus then some s else none
  | setting :: settings, v :: rest, s => (setting.put v s).bind (putInOrder surplus settings rest)

def section? (d : Dialect) (settings : List (Setting σ)) (default : σ) : Value → Option σ
  | .map entries => putEntries settings [] entries default
  | .list values => putInOrder d.surplus settings values default
  | .scalar s => if d.blankCollections && s.isBlank then some default else none

/-- A style by its token, by a map from its token alone, or as a void scalar of the kind that
its token names. -/
def style? {α : Type} (d : Dialect) (token : α → Text) (all : List α) : Value → Option α
  | .scalar s =>
      match s.kind with
      | some kind => if s.void then all.find? (fun a => token a == kind) else none
      | none => s.text.bind fun t => all.find? (fun a => token a == t)
  | .map [(some t, v)] =>
      if d.allowsBehindStyle v then all.find? (fun a => token a == t) else none
  | _ => none

def unsigned? (bits : Nat) (v : Value) : Option Nat :=
  v.natural?.bind fun n => if n < 1 <<< bits then some n else none

def signed? (bits : Nat) (v : Value) : Option Int :=
  let bound := Int.ofNat (1 <<< (bits - 1))
  v.integer?.bind fun n => if -bound ≤ n ∧ n < bound then some n else none

def texts? (d : Dialect) : Value → Option (List Text)
  | .list values => values.mapM Value.text?
  | .scalar s => if d.blankCollections && s.isBlank then some [] else none
  | .map _ => none

/-- A setting whose value is read by `read` and stored by `store`. -/
def of {α : Type} (name : String) (read : Value → Option α) (store : σ → α → σ) : Setting σ where
  name := name.toList
  put v s := (read v).map (store s)

end Setting

open Setting

namespace Config

def headingSettings (d : Dialect) : List (Setting HeadingConfig) :=
  [.of "style" (style? d HeadingStyle.token HeadingStyle.all) fun s a => { s with style := a },
    .of "normalize_levels" Value.flag? fun s a => { s with normalizeLevels := a }]

def listSettings (d : Dialect) : List (Setting ListConfig) :=
  [.of "bullet_style" (style? d BulletStyle.token BulletStyle.all)
      fun s a => { s with bulletStyle := a },
    .of "number_style" (style? d NumberStyle.token NumberStyle.all)
      fun s a => { s with numberStyle := a },
    .of "consistent_indentation" Value.flag? fun s a => { s with consistentIndentation := a }]

def codeSettings (d : Dialect) : List (Setting CodeConfig) :=
  [.of "fence_style" (style? d FenceStyle.token FenceStyle.all)
      fun s a => { s with fenceStyle := a },
    .of "language_detection" Value.flag? fun s a => { s with languageDetection := a }]

def whitespaceSettings : List (Setting WhitespaceConfig) :=
  [.of "max_blank_lines" (signed? 32) fun s a => { s with maxBlankLines := a },
    .of "trim_trailing_spaces" Value.flag? fun s a => { s with trimTrailingSpaces := a },
    .of "ensure_final_newline" Value.flag? fun s a => { s with ensureFinalNewline := a }]

def filesSettings (d : Dialect) : List (Setting FilesConfig) :=
  [.of "extensions" (texts? d) fun s a => { s with extensions := a },
    .of "ignore_patterns" (texts? d) fun s a => { s with ignorePatterns := a }]

def settings (d : Dialect) : List (Setting Config) :=
  [.of "line_width" (unsigned? 64) fun s a => { s with lineWidth := a },
    .of "heading" (section? d (headingSettings d) {}) fun s a => { s with heading := a },
    .of "list" (section? d (listSettings d) {}) fun s a => { s with list := a },
    .of "code" (section? d (codeSettings d) {}) fun s a => { s with code := a },
    .of "whitespace" (section? d whitespaceSettings {}) fun s a => { s with whitespace := a },
    .of "files" (section? d (filesSettings d) {}) fun s a => { s with files := a }]

/-- The settings that a value describes. -/
def ofValue? (d : Dialect) (v : Value) : Option Config := section? d (settings d) {} v

end Config

end Tidymark
