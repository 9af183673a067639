import Tidymark.Text.Blank
import Tidymark.Inline.CodeSpan

/-!
# Settings

The settings of a formatting run and their defaults.  Each style is one of a
few tokens of the markup itself.
-/

namespace Tidymark

/-- How a heading is marked: by leading hashes or by an underline. -/
inductive HeadingStyle where
  | atx
  | setext
  deriving DecidableEq, Repr, Inhabited

inductive FenceStyle where
  | backticks
  | tildes
  deriving DecidableEq, Repr, Inhabited

inductive BulletStyle where
  | dash
  | asterisk
  | plus
  deriving DecidableEq, Repr, Inhabited

inductive NumberStyle where
  | period
  | parenthesis
  deriving DecidableEq, Repr, Inhabited

namespace HeadingStyle

def token : HeadingStyle → Text
  | .atx => "atx".toList
  | .setext => "setext".toList

def all : List HeadingStyle := [.atx, .setext]

end HeadingStyle

namespace FenceStyle

def char : FenceStyle → Char
  | .backticks => backtick
  | .tildes => '~'

def token (style : FenceStyle) : Text := List.replicate 3 style.char

def all : List FenceStyle := [.backticks, .tildes]

end FenceStyle

namespace BulletStyle

def token : BulletStyle → Text
  | .dash => ['-']
  | .asterisk => ['*']
  | .plus => ['+']

def all : List BulletStyle := [.dash, .asterisk, .plus]

end BulletStyle

namespace NumberStyle

def token : NumberStyle → Text
  | .period => ['.']
  | .parenthesis => [')']

def all : List NumberStyle := [.period, .parenthesis]

end NumberStyle

structure HeadingConfig where
  style : HeadingStyle := .atx
  /-- Bring heading levels into the range from one to six. -/
  normalizeLevels : Bool := true
  deriving DecidableEq, Repr, Inhabited

structure ListConfig where
  bulletStyle : BulletStyle := .dash
  numberStyle : NumberStyle := .period
  /-- Indent nested lists to the content of their item. -/
  consistentIndentation : Bool := true
  deriving DecidableEq, Repr, Inhabited

/-- Settings for code blocks.  Language detection changes nothing yet. -/
structure CodeConfig where
  fenceStyle : FenceStyle := .backticks
  languageDetection : Bool := true
  deriving DecidableEq, Repr, Inhabited

structure WhitespaceConfig where
  /-- The longest run of blank lines kept; a negative number keeps all. -/
  maxBlankLines : Int := 2
  trimTrailingSpaces : Bool := true
  ensureFinalNewline : Bool := true
  deriving DecidableEq, Repr, Inhabited

structure FilesConfig where
  extensions : List Text := [".md".toList, ".markdown".toList, ".mdown".toList]
  ignorePatterns : List Text := ["node_modules/**".toList, ".git/**".toList, "vendor/**".toList]
  deriving DecidableEq, Repr, Inhabited

/-- The settings of a formatting run. -/
structure Config where
  /-- The width to which paragraphs are reflowed; zero leaves them alone. -/
  lineWidth : Nat := 80
  heading : HeadingConfig := {}
  list : ListConfig := {}
  code : CodeConfig := {}
  whitespace : WhitespaceConfig := {}
  files : FilesConfig := {}
  deriving DecidableEq, Repr, Inhabited

end Tidymark
