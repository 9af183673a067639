import Tidymark.Document.Reading
import Tidymark.Proofs.Text.Runs
import Tidymark.Proofs.Text.Words

/-!
# Collapsed blanks

A run of blanks is made one space by a reader that remembers whether it stands
behind a blank.  Where blanks are only exchanged, dropped behind others or
dropped at the ends of the text, no two characters come together that blanks
kept apart, and the runs of backticks are what they were.
-/

namespace Tidymark

namespace Text

/-! ## One space for a run of blanks -/

/-- Whether two characters are in one run of blanks, if they are neighbours. -/
def bothBlank (c d : Char) : Bool := isBlank c && isBlank d

/-- Each run of blanks made one space. -/
def squeeze (s : Text) : Text :=
  (s.splitBy bothBlank).flatMap fun run => if run.any isBlank then [' '] else run

theorem squeeze_singleton {b : Char} (hb : isBlank b = true) : squeeze [b] = [' '] := by
  have hrun : [b].splitBy bothBlank = [[b]] := rfl
  simp [squeeze, hrun, hb]

theorem squeeze_cons_of_not_rel {c d : Char} (h : bothBlank c d = false) (s : Text) :
    squeeze (c :: d :: s) = (if isBlank c then ' ' else c) :: squeeze (d :: s) := by
  rw [squeeze, splitBy_cons_of_not_rel h, List.flatMap_cons, ← squeeze]
  cases hc : isBlank c <;> simp [hc]

theorem squeeze_cons {c : Char} (hc : isBlank c = false) (s : Text) :
    squeeze (c :: s) = c :: squeeze s := by
  cases s with
  | nil =>
      have hrun : [c].splitBy bothBlank = [[c]] := rfl
      simp [squeeze, hrun, hc]
  | cons d s =>
      have hrel : bothBlank c d = false := by rw [bothBlank, hc, Bool.false_and]
      rw [squeeze_cons_of_not_rel hrel, if_neg (by simp [hc])]

theorem squeeze_blank_cons {b d : Char} (hb : isBlank b = true) (hd : isBlank d = false)
    (s : Text) : squeeze (b :: d :: s) = ' ' :: squeeze (d :: s) := by
  have hrel : bothBlank b d = false := by rw [bothBlank, hd, Bool.and_false]
  rw [squeeze_cons_of_not_rel hrel, if_pos hb]

theorem squeeze_blank_blank {b d : Char} (hb : isBlank b = true) (hd : isBlank d = true)
    (s : Text) : squeeze (b :: d :: s) = squeeze (d :: s) := by
  obtain ⟨run, runs, hsplit⟩ := exists_splitBy_cons bothBlank d s
  have hrel : bothBlank b d = true := by rw [bothBlank, hb, hd, Bool.and_true]
  rw [squeeze, splitBy_cons_of_rel hrel hsplit, squeeze, hsplit, List.flatMap_cons,
    List.flatMap_cons, if_pos (by simp [hb]), if_pos (by simp [hd])]

/-- The reader makes each run of blanks one space. -/
theorem spaceRuns_eq_squeeze (s : Text) :
    spaceRuns false s = squeeze s ∧
      ∀ b, isBlank b = true → ' ' :: spaceRuns true s = squeeze (b :: s) := by
  induction s with
  | nil => exact ⟨rfl, fun b hb => (squeeze_singleton hb).symm⟩
  | cons c s ih =>
      cases hc : isBlank c with
      | true =>
          have hrest : spaceRuns true (c :: s) = spaceRuns true s := by
            rw [spaceRuns, if_pos hc, if_pos rfl]
          refine ⟨?_, fun b hb => ?_⟩
          · rw [spaceRuns, if_pos hc, if_neg Bool.false_ne_true]
            exact ih.2 c hc
          · rw [hrest, squeeze_blank_blank hb hc]
            exact ih.2 c hc
      | false =>
          have hrest (behind : Bool) : spaceRuns behind (c :: s) = squeeze (c :: s) := by
            rw [spaceRuns, if_neg (by simp [hc]), ih.1, squeeze_cons hc]
          exact ⟨hrest false, fun b hb => by rw [hrest, squeeze_blank_cons hb hc]⟩

theorem unfoldLines_append (s t : Text) :
    unfoldLines (s ++ t) = unfoldLines s ++ unfoldLines t :=
  List.map_append

/-! ## Blanks exchanged and dropped -/

/-- A text with other blanks in the place of some and without some others: they stand behind a
blank, or at the end if the text is the `last` one.  `behind` tells whether a blank or nothing
stands in front. -/
inductive Collapsed (last : Bool) : Bool → Text → Text → Prop where
  | nil {behind : Bool} : Collapsed last behind [] []
  | char {behind : Bool} {c : Char} {s t : Text} (hc : isBlank c = false)
      (h : Collapsed last false s t) : Collapsed last behind (c :: s) (c :: t)
  | blank {behind : Bool} {b d : Char} {s t : Text} (hb : isBlank b = true)
      (hd : isBlank d = true) (h : Collapsed last true s t) :
      Collapsed last behind (b :: s) (d :: t)
  | drop {b : Char} {s t : Text} (hb : isBlank b = true) (h : Collapsed last true s t) :
      Collapsed last true (b :: s) t
  | trail {behind : Bool} {b : Char} {s : Text} (hb : isBlank b = true) (hlast : last = true)
      (h : Collapsed last true s []) : Collapsed last behind (b :: s) []

theorem trimStart_append (s : Text) {t : Text} (ht : ∀ c, t.head? = some c → isBlank c = false) :
    trimStart (s ++ t) = trimStart s ++ t := by
  have hkept : trimStart t = t := dropWhile_append_of_stop (a := []) (by simp) ht
  rw [trimStart, trimStart, List.dropWhile_append]
  split
  · next hempty => rw [List.isEmpty_iff.mp hempty, List.nil_append, ← trimStart, hkept]
  · rfl

theorem trimEnd_cons {b : Char} (hb : isBlank b = true) (s : Text) :
    trimEnd (b :: s) = if trimEnd s = [] then [] else b :: trimEnd s := by
  have hblank : [b].dropWhile isBlank = [] := List.dropWhile_cons_of_pos hb
  rw [trimEnd, trimEnd, dropEndWhile, dropEndWhile, List.reverse_cons, List.dropWhile_append,
    hblank]
  simp only [List.reverse_eq_nil_iff, List.isEmpty_iff]
  split
  · rfl
  · exact List.reverse_concat

theorem ne_backtick_of_isBlank {b : Char} (hb : isBlank b = true) : b ≠ backtick := by
  rintro rfl
  cases hb

namespace Collapsed

variable {last behind : Bool} {s t : Text}

theorem eq_nil_right (h : Collapsed last behind [] t) : t = [] := by
  cases h
  rfl

theorem exists_of_cons {c : Char} (hc : isBlank c = false) (h : Collapsed last behind (c :: s) t) :
    ∃ t', t = c :: t' ∧ Collapsed last false s t' := by
  cases h with
  | char _ h => exact ⟨_, rfl, h⟩
  | blank hb | drop hb | trail hb =>
      rw [hc] at hb
      cases hb

/-- What is collapsed as it is behind other characters may stand anywhere. -/
theorem anywhere (h : Collapsed last false s t) (behind : Bool) : Collapsed last behind s t := by
  cases h with
  | nil => exact .nil
  | char hc h => exact .char hc h
  | blank hb hd h => exact .blank hb hd h
  | trail hb hlast h => exact .trail hb hlast h

theorem append {s' t' : Text} (h : Collapsed last behind s t) (hlast : last = true → s' = [])
    (h' : ∀ q, Collapsed true q s' t') : Collapsed true behind (s ++ s') (t ++ t') := by
  induction h with
  | nil => exact h' _
  | char hc _ ih => exact .char hc ih
  | blank hb hd _ ih => exact .blank hb hd ih
  | drop hb _ ih => exact .drop hb ih
  | trail hb hend _ ih =>
      obtain rfl := hlast hend
      obtain rfl := (h' true).eq_nil_right
      exact .trail hb rfl ih

/-! ### What collapses -/

theorem squeeze (s : Text) : Collapsed last false s (squeeze s) := by
  have hboth (behind : Bool) : Collapsed last behind s (spaceRuns behind s) := by
    induction s generalizing behind with
    | nil => exact .nil
    | cons c s ih =>
        rw [spaceRuns]
        cases hc : isBlank c with
        | true =>
            cases behind with
            | true => exact .drop hc (ih true)
            | false => exact .blank hc rfl (ih true)
        | false => exact .char hc (ih false)
  rw [← (spaceRuns_eq_squeeze s).1]
  exact hboth false

theorem unfoldLines (s : Text) (behind : Bool) : Collapsed last behind s (unfoldLines s) := by
  induction s generalizing behind with
  | nil => exact .nil
  | cons c s ih =>
      rw [Text.unfoldLines, List.map_cons]
      cases hc : isBlank c with
      | true =>
          refine .blank hc ?_ (ih true)
          split
          · rfl
          · exact hc
      | false =>
          have hbreak : c ≠ '\n' := by
            rintro rfl
            cases hc
          rw [if_neg hbreak]
          exact .char hc (ih false)

theorem trimStart (h : Collapsed last behind s t) : Collapsed last true s (trimStart t) := by
  induction h with
  | nil => exact .nil
  | char hc h =>
      rw [Text.trimStart, List.dropWhile_cons_of_neg (by simp [hc])]
      exact .char hc h
  | blank hb hd _ ih =>
      rw [Text.trimStart, List.dropWhile_cons_of_pos hd]
      exact .drop hb ih
  | drop hb _ ih => exact .drop hb ih
  | trail hb hlast h => exact .trail hb hlast h

theorem trimEnd (h : Collapsed last behind s t) : Collapsed true behind s (trimEnd t) := by
  induction h with
  | nil => exact .nil
  | @char _ c s t hc _ ih =>
      have hkept : Text.trimEnd (c :: t) = c :: Text.trimEnd t :=
        dropEndWhile_append (s := [c]) rfl hc t
      rw [hkept]
      exact .char hc ih
  | @blank _ b d s t hb hd _ ih =>
      rw [trimEnd_cons hd]
      split
      · next hnil =>
          rw [hnil] at ih
          exact .trail hb rfl ih
      · exact .blank hb hd ih
  | drop hb _ ih => exact .drop hb ih
  | trail hb _ _ ih => exact .trail hb rfl ih

/-! ### Backticks -/

theorem exists_of_delimiter {n : Nat} (hn : n ≠ 0)
    (h : Collapsed last behind (CodeSpan.delimiter n ++ s) t) :
    ∃ t', t = CodeSpan.delimiter n ++ t' ∧ Collapsed last false s t' := by
  induction n generalizing behind t with
  | zero => exact absurd rfl hn
  | succ n ih =>
      obtain ⟨t, rfl, hrest⟩ := h.exists_of_cons rfl
      cases n with
      | zero => exact ⟨t, rfl, hrest⟩
      | succ n =>
          obtain ⟨t', rfl, hbehind⟩ := ih (Nat.succ_ne_zero n) hrest
          exact ⟨t', rfl, hbehind⟩

theorem head?_eq_backtick_iff (h : Collapsed last false s t) :
    s.head? = some backtick ↔ t.head? = some backtick := by
  cases h with
  | nil | char => exact Iff.rfl
  | blank hb hd => simp [ne_backtick_of_isBlank hb, ne_backtick_of_isBlank hd]
  | trail hb => simp [ne_backtick_of_isBlank hb]

theorem runsFrom_eq (h : Collapsed last behind s t) {held : Nat}
    (hheld : held ≠ 0 → behind = false) :
    runsFrom backtick held s = runsFrom backtick held t := by
  induction h generalizing held with
  | nil => rfl
  | @char _ c s t _ _ ih =>
      rw [runsFrom, runsFrom, ih fun _ => rfl, ih fun _ => rfl]
  | blank hb hd _ ih =>
      rw [runsFrom, runsFrom, if_neg (ne_backtick_of_isBlank hb),
        if_neg (ne_backtick_of_isBlank hd), ih fun hne => absurd rfl hne]
  | drop hb _ ih =>
      have hzero : held = 0 := by_contra fun hne => Bool.noConfusion (hheld hne)
      rw [runsFrom, if_neg (ne_backtick_of_isBlank hb), if_pos hzero, hzero,
        ih fun hne => absurd rfl hne]
  | trail hb _ _ ih =>
      rw [runsFrom, runsFrom, if_neg (ne_backtick_of_isBlank hb), ih fun hne => absurd rfl hne]
      rfl

/-- Collapsing blanks keeps the lengths of the backtick runs. -/
theorem runs_eq (h : Collapsed last behind s t) : runs backtick s = runs backtick t :=
  h.runsFrom_eq fun hne => absurd rfl hne

end Collapsed

end Text

end Tidymark
