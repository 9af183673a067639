import Tidymark.Document

/-!
# Failures

What can go wrong, by cause, and how each cause is put into words.
-/

namespace Tidymark

inductive ConfigFault where
  | noExtensions
  | badExtension (entry : Text)
  | emptyPattern
  | unknownFileType (path : Text)
  deriving DecidableEq, Repr

/-- Where bytes stop being UTF-8: behind how many valid ones, and how many bytes are wrong,
unless the input only ends too early. -/
structure EncodingFault where
  validUpTo : Nat
  wrongBytes : Option Nat
  deriving DecidableEq, Repr

inductive RenderFault where
  | nestedDocument
  | headingLevel (level : Nat)
  | itemChild (kind : NodeKind)
  deriving DecidableEq, Repr

inductive ConfigFormat where
  | yaml
  | json
  | toml
  deriving DecidableEq, Repr

/-- Why a file cannot be read: there is none, or its bytes are not UTF-8 where a text is needed. -/
inductive ReadFault where
  | missing
  | notText
  deriving DecidableEq, Repr

inductive Failure where
  | unreadable {fault : ReadFault}
  /-- A directory stands where a file is to be read or written. -/
  | isDirectory
  /-- A settings text is not of its format, or does not describe settings. -/
  | malformed (format : ConfigFormat)
  | invalidConfig (fault : ConfigFault)
  | encoding (fault : EncodingFault)
  | rejected (rule : String) (kind : NodeKind) (reason : String)
  | render (fault : RenderFault)
  | missingPath (path : Text)
  deriving DecidableEq, Repr

namespace ConfigFault

def message : ConfigFault → String
  | .noExtensions => "files.extensions must list at least one extension"
  | .badExtension entry =>
      "files.extensions entry '" ++ String.ofList entry ++ "' must look like '.md'"
  | .emptyPattern => "files.ignore_patterns must not contain empty patterns"
  | .unknownFileType path =>
      "unsupported config file type: " ++ String.ofList path ++
        " (expected .yaml, .yml, .json or .toml)"

end ConfigFault

namespace EncodingFault

def message (fault : EncodingFault) : String :=
  match fault.wrongBytes with
  | some n =>
      "invalid utf-8 sequence of " ++ toString n ++ " bytes from index " ++
        toString fault.validUpTo
  | none => "incomplete utf-8 byte sequence from index " ++ toString fault.validUpTo

end EncodingFault

namespace RenderFault

def message : RenderFault → String
  | .nestedDocument => "documents cannot be nested"
  | .headingLevel level => "heading level " ++ toString level ++ " is outside 1..=6"
  | .itemChild kind => "list items may only contain nested lists, found " ++ kind.name

end RenderFault

namespace Failure

/-- The whole text of a failure.  What a settings text does wrong is not detailed. -/
def message : Failure → String
  | @unreadable .missing => "IO error: No such file or directory (os error 2)"
  | @unreadable .notText => "IO error: stream did not contain valid UTF-8"
  | .isDirectory => "IO error: Is a directory (os error 21)"
  | .malformed .yaml => "YAML error"
  | .malformed .json => "JSON error"
  | .malformed .toml => "TOML parsing error"
  | .invalidConfig fault => "Invalid configuration: " ++ fault.message
  | .encoding fault =>
      "Failed to parse markdown: input is not valid UTF-8: " ++ fault.message
  | .rejected rule kind reason =>
      "Failed to format document: " ++ rule ++ " rule rejected " ++ kind.name ++ " node: " ++ reason
  | .render fault => "Failed to render document: " ++ fault.message
  | .missingPath path => "Path not found: " ++ String.ofList path

end Failure

end Tidymark
