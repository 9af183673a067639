import Tidymark.Text.Blank
import Tidymark.Text.Piece

/-!
# Code spans

A code span opens with a run of backticks and closes with the next run of
exactly the same length.  A backslash outside a span makes the character
after it literal, so an escaped backtick opens nothing; a run that nothing
closes is plain text.
-/

namespace Tidymark

def backtick : Char := '\x60'

namespace Text

def runLength (c : Char) : Text → Nat
  | [] => 0
  | d :: s => if d = c then runLength c s + 1 else 0

theorem take_runLength (c : Char) (s : Text) :
    s.take (runLength c s) = List.replicate (runLength c s) c := by
  induction s with
  | nil => simp [runLength]
  | cons d s ih =>
      unfold runLength
      split
      · next h => subst h; simp [ih, List.replicate_succ]
      · simp

end Text

/-- A code span: the length of its delimiters and what stands between them. -/
structure CodeSpan where
  run : Nat
  content : Text
  deriving DecidableEq, Repr

namespace CodeSpan

def delimiter (run : Nat) : Text := List.replicate run backtick

def source (span : CodeSpan) : Text :=
  delimiter span.run ++ span.content ++ delimiter span.run

/-- Cut at the first run of exactly `run` backticks: what precedes it and what follows it. -/
def splitAtRun? (run : Nat) (s : Text) : Option (Text × Text) :=
  match s with
  | [] => none
  | c :: r =>
      if c = backtick then
        let n := Text.runLength backtick r + 1
        if n = run then some ([], r.drop (n - 1))
        else (splitAtRun? run (r.drop (n - 1))).map fun (a, b) => (delimiter n ++ a, b)
      else (splitAtRun? run r).map fun (a, b) => (c :: a, b)
termination_by s.length
decreasing_by
  · simp only [List.length_drop, List.length_cons]; omega
  · simp

theorem delimiter_append_drop (r : Text) :
    delimiter (Text.runLength backtick r + 1) ++ r.drop (Text.runLength backtick r) =
      backtick :: r := by
  rw [delimiter, List.replicate_succ, ← Text.take_runLength, List.cons_append,
    List.take_append_drop]

theorem append_of_splitAtRun? {run : Nat} {s a b : Text}
    (h : splitAtRun? run s = some (a, b)) : s = a ++ delimiter run ++ b := by
  fun_induction splitAtRun? run s generalizing a with
  | case1 => cases h
  | case2 r n =>
      cases h
      rename_i hn
      rw [← hn]
      simpa [n] using (delimiter_append_drop r).symm
  | case3 r n hn =>
      rename_i ih
      obtain ⟨⟨a', b'⟩, hs, heq⟩ := Option.map_eq_some_iff.mp h
      cases heq
      rw [List.append_assoc, List.append_assoc, ← List.append_assoc a', ← ih hs]
      simpa [n] using (delimiter_append_drop r).symm
  | case4 c r hc ih =>
      obtain ⟨⟨a', b'⟩, hs, heq⟩ := Option.map_eq_some_iff.mp h
      cases heq
      simp [ih hs]

theorem length_of_splitAtRun? {run : Nat} {s a b : Text}
    (h : splitAtRun? run s = some (a, b)) : b.length ≤ s.length := by
  rw [append_of_splitAtRun? h]
  simp only [List.length_append]
  omega

/-- The code spans of a text and the prose between them. -/
def pieces (s : Text) : List (Piece CodeSpan) :=
  match s with
  | [] => []
  | '\\' :: c :: r => Piece.consPlain ['\\', c] (pieces r)
  | c :: r =>
      if c = backtick then
        let n := Text.runLength backtick r + 1
        let rest := r.drop (n - 1)
        match _h : splitAtRun? n rest with
        | some (content, after) => .found ⟨n, content⟩ :: pieces after
        | none => Piece.consPlain (delimiter n) (pieces rest)
      else Piece.consPlain [c] (pieces r)
termination_by s.length
decreasing_by
  · simp only [List.length_cons]; omega
  · have := length_of_splitAtRun? _h
    simp only [rest, List.length_drop, List.length_cons] at this ⊢
    omega
  · simp only [List.length_drop, List.length_cons]; omega
  · simp

@[simp] theorem textOf_pieces (s : Text) : Piece.textOf source (pieces s) = s := by
  fun_induction pieces s with
  | case1 => rfl
  | case2 c r ih => simp [ih]
  | case3 r n rest content after h _ ih =>
      have ha := append_of_splitAtRun? h
      have hd := delimiter_append_drop r
      simp only [Piece.textOf, Piece.text, source, ih]
      rw [List.append_assoc, List.append_assoc, ← List.append_assoc content, ← ha]
      simpa [rest, n] using hd
  | case4 r n rest h _ ih =>
      rw [Piece.textOf_consPlain, ih]
      simpa [rest, n] using delimiter_append_drop r
  | case5 c r _ hc ih => simp [ih]

/-- The byte ranges of the code spans of a text, backticks included. -/
def ranges (s : Text) : List Span := Piece.spans source 0 (pieces s)

end CodeSpan

end Tidymark
