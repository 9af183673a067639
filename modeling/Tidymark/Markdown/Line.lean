import Tidymark.Text.Piece

/-!
# Source lines

A line ends with a line feed, a carriage return, both in this order, or the
end of the source.  Within a line, tabs, vertical tabs, form feeds and spaces
are blank.
-/

namespace Tidymark

namespace Markdown

def isLineBlank (c : Char) : Bool := c == ' ' || c == '\t' || c == '\x0b' || c == '\x0c'

def isLineEnd (c : Char) : Bool := c == '\n' || c == '\r'

/-- A blank within a line or a character that ends one. -/
def isAsciiBlank (c : Char) : Bool := isLineBlank c || isLineEnd c

def isPunctuation (c : Char) : Bool :=
  let n := c.toNat
  (0x21 ≤ n && n ≤ 0x2F) || (0x3A ≤ n && n ≤ 0x40) || (0x5B ≤ n && n ≤ 0x60) ||
    (0x7B ≤ n && n ≤ 0x7E)

/-- The length of the line ending at the start of a text, if it has one there. -/
def lineEnd? : Text → Option Nat
  | [] => some 0
  | '\n' :: _ => some 1
  | '\r' :: '\n' :: _ => some 2
  | '\r' :: _ => some 1
  | _ => none

def blankRun : Text → Nat
  | [] => 0
  | c :: s => if isLineBlank c then blankRun s + 1 else 0

/-- The length of the rest of a line with its ending, if the rest is blank. -/
def blankLine? (s : Text) : Option Nat := (lineEnd? (s.drop (blankRun s))).map (blankRun s + ·)

def isBlankLine (s : Text) : Bool := (blankLine? s).isSome

def lineLength : Text → Nat
  | [] => 0
  | c :: s => if isLineEnd c then 0 else lineLength s + 1

def throughLineFeed : Text → Nat
  | [] => 0
  | c :: s => if c = '\n' then 1 else throughLineFeed s + 1

/-- A place in a source: how many characters precede it, and those that follow. -/
structure Place where
  offset : Nat
  rest : Text
  deriving Repr

namespace Place

def skip (p : Place) (n : Nat) : Place := ⟨p.offset + n, p.rest.drop n⟩

def skipBlankLine (p : Place) : Place :=
  match blankLine? p.rest with
  | some n => p.skip n
  | none => p

end Place

end Markdown

end Tidymark
