import Tidymark.Failure

/-!
# Valid settings

Settings are valid if there is at least one extension, every extension is a
dot and more, and no ignore pattern is blank.
-/

namespace Tidymark

namespace Config

/-- Whether an extension is a dot and at least one more character. -/
def isExtension : Text → Bool
  | '.' :: _ :: _ => true
  | _ => false

def fault? (c : Config) : Option ConfigFault :=
  if c.files.extensions.isEmpty then some .noExtensions
  else
    match c.files.extensions.find? (!isExtension ·) with
    | some entry => some (.badExtension entry)
    | none => if c.files.ignorePatterns.any Text.isAllBlank then some .emptyPattern else none

def validate (c : Config) : Except Failure Unit :=
  match c.fault? with
  | some fault => .error (.invalidConfig fault)
  | none => .ok ()

end Config

end Tidymark
