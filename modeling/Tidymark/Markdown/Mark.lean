import Tidymark.Inline.CodeSpan
import Tidymark.Markdown.Line

/-!
# Marks of leaf blocks

What the start of a line, behind its indentation, says about the block it
belongs to: thematic breaks, headings, underlines, code fences and list
markers.
-/

namespace Tidymark

namespace Markdown

/-- How many times `c` stands in a line that otherwise holds spaces and tabs, and the length of
the line with its ending. -/
def countMarks? (c : Char) : Text → Option (Nat × Nat)
  | [] => some (0, 0)
  | d :: s =>
      if isLineEnd d then (lineEnd? (d :: s)).map (0, ·)
      else if d = c then (countMarks? c s).map fun (n, k) => (n + 1, k + 1)
      else if d = ' ' ∨ d = '\t' then (countMarks? c s).map fun (n, k) => (n, k + 1)
      else none

/-- The length of a thematic break: three or more of one mark and nothing else in the line. -/
def thematicBreak? (s : Text) : Option Nat :=
  match s with
  | [] => none
  | c :: _ =>
      if c = '*' ∨ c = '-' ∨ c = '_' then
        match countMarks? c s with
        | some (n, k) => if 3 ≤ n then some k else none
        | none => none
      else none

def atxLevel? (s : Text) : Option Nat :=
  let level := Text.runLength '#' s
  let separated := match s.drop level with
    | [] => true
    | c :: _ => isAsciiBlank c
  if separated && 1 ≤ level && level ≤ 6 then some level else none

/-- The level that an underline gives to the heading above it, and the length of its line. -/
def underline? (s : Text) : Option (Nat × Nat) :=
  match s with
  | [] => none
  | c :: _ =>
      if c = '=' ∨ c = '-' then
        let n := Text.runLength c s
        (blankLine? (s.drop n)).map fun k => (if c = '=' then 1 else 2, n + k)
      else none

/-- The character and length of an opening code fence.  No backtick may follow one of
backticks up to the line feed. -/
def openingFence? (s : Text) : Option (Char × Nat) :=
  match s with
  | [] => none
  | c :: _ =>
      let n := Text.runLength c s
      let after := s.drop n
      if (c == '~' || c == backtick) && 3 ≤ n &&
          !(c == backtick && (after.take (throughLineFeed after)).contains backtick) then
        some (c, n)
      else none

/-- The length of a closing code fence, up to the end of its line; the end of the source closes
every fence. -/
def closingFence? (c : Char) (n : Nat) (s : Text) : Option Nat :=
  if s.isEmpty then some 0
  else
    let found := Text.runLength c s
    let after := s.drop found
    let spaces := Text.runLength ' ' after
    if n ≤ found && (lineEnd? (after.drop spaces)).isSome then some (found + spaces) else none

/-- A list marker: the character that tells lists apart, the number of an ordered one, and the
length. -/
structure ListMark where
  char : Char
  number : Option Nat
  length : Nat
  deriving Repr

def listMark? (s : Text) : Option ListMark :=
  match s with
  | [] => none
  | c :: _ =>
      if c = '-' ∨ c = '+' ∨ c = '*' then some ⟨c, none, 1⟩
      else
        let digits := s.takeWhile Char.isDigit
        match s.drop digits.length with
        | d :: _ =>
            if (d == '.' || d == ')') && 1 ≤ digits.length && digits.length ≤ 9 then
              let number := digits.foldl (fun n e => n * 10 + (e.toNat - 48)) 0
              some ⟨d, some number, digits.length + 1⟩
            else none
        | [] => none

end Markdown

end Tidymark
