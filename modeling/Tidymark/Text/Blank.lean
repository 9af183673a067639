import Tidymark.Text

/-!
# Blank characters and words

A blank is a character with the `White_Space` property.  Words are the
maximal runs of other characters.
-/

namespace Tidymark

/-- The characters with the `White_Space` property. -/
def isBlank (c : Char) : Bool :=
  let n := c.toNat
  (9 ≤ n && n ≤ 13) || n == 0x20 || n == 0x85 || n == 0xA0 || n == 0x1680 ||
    (0x2000 ≤ n && n ≤ 0x200A) || n == 0x2028 || n == 0x2029 || n == 0x202F ||
    n == 0x205F || n == 0x3000

namespace Text

def trimStart (s : Text) : Text := s.dropWhile isBlank

def dropEndWhile (p : Char → Bool) (s : Text) : Text := (s.reverse.dropWhile p).reverse

def trimEnd (s : Text) : Text := dropEndWhile isBlank s

def trim (s : Text) : Text := trimEnd (trimStart s)

def isAllBlank (s : Text) : Bool := s.all isBlank

def words (s : Text) : List Text :=
  match _h : s.dropWhile isBlank with
  | [] => []
  | c :: r => (c :: r.takeWhile (!isBlank ·)) :: words (r.dropWhile (!isBlank ·))
termination_by s.length
decreasing_by
  have h₁ := (List.dropWhile_sublist isBlank (l := s)).length_le
  have h₂ := (List.dropWhile_sublist (!isBlank ·) (l := r)).length_le
  rw [_h] at h₁
  simp only [List.length_cons] at h₁
  omega

def joinWords : List Text → Text
  | [] => []
  | [word] => word
  | word :: next :: rest => word ++ ' ' :: joinWords (next :: rest)

end Text

end Tidymark
