import Tidymark.Text

/-!
# YAML: places and blanks

A place in a text knows its line and column, for indentation has a meaning.
-/

namespace Tidymark

namespace Yaml

def isBlank (c : Char) : Bool := c == ' ' || c == '\t'

def isBreak (c : Char) : Bool :=
  c == '\n' || c == '\r' || c == '\u0085' || c == '\u2028' || c == '\u2029'

def endsWord : Text → Bool
  | [] => true
  | c :: _ => isBlank c || isBreak c

def endsLine : Text → Bool
  | [] => true
  | c :: _ => isBreak c

structure Place where
  rest : Text
  index : Nat
  line : Nat
  column : Nat
  deriving Repr

namespace Place

def skip (p : Place) (n : Nat) : Place :=
  { p with rest := p.rest.drop n, index := p.index + n, column := p.column + n }

def skipWhile (p : Place) (f : Char → Bool) : Place := p.skip (p.rest.takeWhile f).length

def skipBlanks (p : Place) : Place := p.skipWhile isBlank

def skipLine (p : Place) : Place := p.skipWhile fun c => !isBreak c

def skipComment (p : Place) : Place :=
  match p.rest with
  | '#' :: _ => p.skipLine
  | _ => p

/-- Pass a line break, and give the character that it stands for. -/
def passBreak (p : Place) : Text × Place :=
  match p.rest with
  | [] => ([], p)
  | '\r' :: '\n' :: r => (['\n'], ⟨r, p.index + 2, p.line + 1, 0⟩)
  | c :: r =>
      ([if c = '\u2028' ∨ c = '\u2029' then c else '\n'], ⟨r, p.index + 1, p.line + 1, 0⟩)

/-- Whether a line that separates documents starts here. -/
def atMarker (p : Place) (marker : Text) : Bool :=
  p.column == 0 &&
    match Text.after? marker p.rest with
    | some r => endsWord r
    | none => false

def atDocumentStart (p : Place) : Bool := p.atMarker "---".toList

def atDocumentEnd (p : Place) : Bool := p.atMarker "...".toList

def atDocumentMarker (p : Place) : Bool := p.atDocumentStart || p.atDocumentEnd

end Place

end Yaml

end Tidymark
