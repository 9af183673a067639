import Tidymark.Inline.CodeSpan
import Tidymark.Inline.Link

/-!
# Tokens

A token is a maximal run of characters that are not blank or lie in a link
construct.  A token that ends in an odd number of backslashes and is followed
by a line break and another token makes a hard break.
-/

namespace Tidymark

/-- A token and whether the source breaks the line after it. -/
structure Token where
  text : Text
  hardBreak : Bool
  deriving DecidableEq, Repr

structure Marked where
  char : Char
  linked : Bool
  deriving DecidableEq, Repr

namespace Marked

def ofPieces : List (Piece Link) → List Marked
  | [] => []
  | .plain s :: ps => s.map (⟨·, false⟩) ++ ofPieces ps
  | .found link :: ps => link.source.map (⟨·, true⟩) ++ ofPieces ps

def ofText (s : Text) : List Marked := ofPieces (Link.pattern.pieces s)

/-- A blank outside link constructs separates tokens. -/
def separates (m : Marked) : Bool := isBlank m.char && !m.linked

end Marked

namespace Token

def endsEscaped (s : Text) : Bool := Text.runLength '\\' s.reverse % 2 == 1

def ofMarked (s : List Marked) : List Token :=
  match _h : s.dropWhile Marked.separates with
  | [] => []
  | m :: r =>
      let word := m.char :: (r.takeWhile (!·.separates)).map (·.char)
      let rest := r.dropWhile (!·.separates)
      let gap := rest.takeWhile Marked.separates
      let after := rest.dropWhile Marked.separates
      let hard := !after.isEmpty && gap.any (·.char == '\n') && endsEscaped word
      ⟨word, hard⟩ :: ofMarked rest
termination_by s.length
decreasing_by
  have h₁ := (List.dropWhile_sublist Marked.separates (l := s)).length_le
  have h₂ := (List.dropWhile_sublist (!·.separates) (l := r)).length_le
  rw [_h] at h₁
  simp only [List.length_cons] at h₁
  omega

def ofText (s : Text) : List Token := ofMarked (Marked.ofText s)

end Token

end Tidymark
