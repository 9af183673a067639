import Tidymark.Proofs.Render.Lines

/-!
# Two caps on blank lines

A second cap meets what the first left of each run of blank lines, so both
together are the lower of the two.  A cap of zero can leave no line at all;
the text is empty then, and read again it has one line, which is blank.
-/

namespace Tidymark

namespace BlankLines

/-- Lines kept under one cap and then under another are those kept under both.  When the first
cap has seen `run` blank lines of a run, the second has seen those of them that were kept. -/
theorem keep_keep (a b run : Nat) (ls : List Text) :
    keep b (min run a) (keep a run ls) = keep (min a b) run ls := by
  induction ls generalizing run with
  | nil => rfl
  | cons l ls ih =>
      cases hl : Text.isAllBlank l with
      | false =>
          have hrest : keep b 0 (keep a 0 ls) = keep (min a b) 0 ls := by
            simpa using ih 0
          rw [keep_line hl, keep_line hl, keep_line hl, hrest]
      | true =>
          have hrest := ih (run + 1)
          by_cases hrun : run < a
          · -- The second cap sees the line, as the next one of its run.
            have hseen : min run a = run := by omega
            have hnext : min (run + 1) a = run + 1 := by omega
            have hlow : run < min a b ↔ run < b := by omega
            rw [hnext] at hrest
            simp [keep_blank hl, hrun, hseen, hlow, hrest]
          · -- The second cap never sees the line.
            have hseen : min run a = min (run + 1) a := by omega
            have hlow : ¬run < min a b := by omega
            simp only [keep_blank hl, hrun, hseen, hlow, if_false, hrest]

theorem normalize_nil (cap : Nat) : normalize cap [] = [] := by
  change Text.joinLines (keep cap 0 [[]]) = []
  rw [keep_blank rfl]
  split <;> rfl

theorem normalize_min (a b : Nat) (s : Text) :
    normalize b (normalize a s) = normalize (min (a : Int) b) s := by
  have hmin : min (a : Int) b = (min a b : Nat) := by omega
  have hkept := keep_keep a b 0 (Text.lines s)
  rw [Nat.zero_min] at hkept
  rw [hmin]
  by_cases hnone : keep a 0 (Text.lines s) = []
  · have hempty : normalize a s = [] := congrArg Text.joinLines hnone
    rw [hnone] at hkept
    rw [hempty, normalize_nil]
    exact congrArg Text.joinLines hkept
  · have hlines : Text.lines (normalize a s) = keep a 0 (Text.lines s) := lines_normalize hnone
    calc normalize b (normalize a s)
        = Text.joinLines (keep b 0 (Text.lines (normalize a s))) := rfl
      _ = Text.joinLines (keep (min a b) 0 (Text.lines s)) := by rw [hlines, hkept]
      _ = normalize ((min a b : Nat) : Int) s := rfl

/-- One cap behind another is the lower of both; a cap is done with once, and which of two comes
first does not matter. -/
theorem normalize_normalize (a b : Nat) (s : Text) :
    normalize b (normalize a s) = normalize (min (a : Int) b) s ∧
      normalize a (normalize a s) = normalize a s ∧
      normalize b (normalize a s) = normalize a (normalize b s) := by
  refine ⟨normalize_min a b s, ?_, ?_⟩
  · simpa using normalize_min a a s
  · rw [normalize_min a b, normalize_min b a, Int.min_comm]

example : normalize 1 (normalize 3 "a\n\n \n\n\nb".toList) = "a\n\nb".toList := by
  decide +kernel

end BlankLines

end Tidymark
