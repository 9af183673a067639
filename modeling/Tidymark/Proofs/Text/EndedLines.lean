import Tidymark.Proofs.Text.Spacing

/-!
# Lines with their line feeds

Each line of a text but the last has its line feed.  So the lines of two texts
one behind the other are those of each, if the first text is ended.
-/

namespace Tidymark

namespace Text

/-- A line together with the line feed that ends it. -/
def EndedLine (l : Text) : Prop := ∃ r, '\n' ∉ r ∧ l = r ++ ['\n']

theorem endedLines_cons {c : Char} (hc : c ≠ '\n') (s : Text) :
    endedLines (c :: s) = consFirst c (endedLines s) := by
  rw [endedLines, if_neg hc]

theorem endedLines_append_line {l : Text} (hl : EndedLine l) (s : Text) :
    endedLines (l ++ s) = l :: endedLines s := by
  obtain ⟨r, hr, rfl⟩ := hl
  induction r with
  | nil => rfl
  | cons c r ih =>
      rw [List.mem_cons, not_or] at hr
      rw [List.cons_append, List.cons_append, endedLines_cons (Ne.symm hr.1), ih hr.2, consFirst]

theorem endedLines_append_lines {ls : List Text} (hls : ∀ l ∈ ls, EndedLine l) (s : Text) :
    endedLines (ls.flatten ++ s) = ls ++ endedLines s := by
  induction ls with
  | nil => rfl
  | cons l ls ih =>
      rw [List.forall_mem_cons] at hls
      rw [List.flatten_cons, List.append_assoc, endedLines_append_line hls.1, ih hls.2,
        List.cons_append]

theorem exists_endedLines_append {r : Text} (hr : '\n' ∉ r) (hne : r ≠ []) (s : Text) :
    ∃ l ls, endedLines (r ++ s) = (r ++ l) :: ls := by
  induction r with
  | nil => exact absurd rfl hne
  | cons c r ih =>
      rw [List.mem_cons, not_or] at hr
      rw [List.cons_append, endedLines_cons (Ne.symm hr.1)]
      cases r with
      | nil =>
          cases hs : endedLines s with
          | nil => exact ⟨[], [], by rw [List.nil_append, hs]; rfl⟩
          | cons l ls => exact ⟨l, ls, by rw [List.nil_append, hs]; rfl⟩
      | cons d r =>
          obtain ⟨l, ls, hls⟩ := ih hr.2 (List.cons_ne_nil d r)
          exact ⟨l, ls, by rw [hls]; rfl⟩

theorem endedLine_of_endedLines {s : Text} {before : List Text} {line : Text} {after : List Text}
    (h : endedLines s = before ++ line :: after) : ∀ l ∈ before, EndedLine l := by
  induction s generalizing before with
  | nil => simp [endedLines] at h
  | cons c s ih =>
      cases before with
      | nil => simp
      | cons k before =>
          by_cases hc : c = '\n'
          · rw [endedLines, if_pos hc, List.cons_append, List.cons.injEq] at h
            rw [List.forall_mem_cons]
            exact ⟨⟨[], by simp, h.1.symm⟩, ih h.2⟩
          · rw [endedLines_cons hc] at h
            cases hs : endedLines s with
            | nil =>
                rw [hs] at h
                simp [consFirst] at h
            | cons first rest =>
                rw [hs, consFirst, List.cons_append, List.cons.injEq] at h
                obtain ⟨rfl, hrest⟩ := h
                have hlines : ∀ k ∈ first :: before, EndedLine k :=
                  ih (by rw [hs, hrest, List.cons_append])
                rw [List.forall_mem_cons] at hlines ⊢
                obtain ⟨⟨r, hr, rfl⟩, hbefore⟩ := hlines
                exact ⟨⟨c :: r, by simp [Ne.symm hc, hr], rfl⟩, hbefore⟩

/-! ## Behind an ended text -/

theorem ended_flatten {ls : List Text} (hls : ∀ l ∈ ls, EndedLine l) : Ended ls.flatten := by
  induction ls with
  | nil => exact ended_nil
  | cons l ls ih =>
      rw [List.forall_mem_cons] at hls
      obtain ⟨⟨r, _, rfl⟩, hrest⟩ := hls
      exact (ended_append_break r).append (ih hrest)

theorem endedLines_ne_nil {s : Text} (hs : s ≠ []) : endedLines s ≠ [] := by
  intro hnil
  apply hs
  rw [← flatten_endedLines s, hnil, List.flatten_nil]

theorem Ended.endedLines_append {s : Text} (hs : Ended s) (t : Text) :
    endedLines (s ++ t) = endedLines s ++ endedLines t := by
  induction s with
  | nil => rfl
  | cons c s ih =>
      have hrest : Ended s := by
        intro d hd
        apply hs d
        rw [List.getLast?_cons, hd, Option.getD_some]
      by_cases hc : c = '\n'
      · subst hc
        exact congrArg (['\n'] :: ·) (ih hrest)
      · have hne : s ≠ [] := by
          rintro rfl
          exact hc (hs c rfl)
        rw [List.cons_append, endedLines_cons hc, endedLines_cons hc, ih hrest,
          consFirst_append (endedLines_ne_nil hne)]

theorem endedLines_flatten {s : Text} {before after : List Text}
    (h : endedLines s = before ++ after) : endedLines after.flatten = after := by
  cases after with
  | nil => rfl
  | cons l after =>
      have hs : s = before.flatten ++ (l :: after).flatten := by
        rw [← List.flatten_append, ← h, flatten_endedLines]
      have hlines := endedLines_append_lines (endedLine_of_endedLines h) (l :: after).flatten
      rw [← hs, h] at hlines
      exact (List.append_cancel_left hlines).symm

/-- The first lines of a text, with something else behind them, or nothing if nothing was. -/
theorem endedLines_flatten_append {s t : Text} {before after : List Text}
    (h : endedLines s = before ++ after) (ht : after = [] → t = []) :
    endedLines (before.flatten ++ t) = before ++ endedLines t := by
  cases after with
  | nil =>
      rw [ht rfl, List.append_nil, endedLines, List.append_nil]
      rw [List.append_nil, ← List.nil_append before] at h
      exact endedLines_flatten h
  | cons l after => exact endedLines_append_lines (endedLine_of_endedLines h) t

theorem endedLines_flatten_left {s : Text} {before after : List Text}
    (h : endedLines s = before ++ after) : endedLines before.flatten = before := by
  have hlines := endedLines_flatten_append h (t := []) fun _ => rfl
  rwa [List.append_nil, endedLines, List.append_nil] at hlines

/-- In front of each line the text is ended. -/
theorem exists_of_mem_endedLines {s l : Text} (hl : l ∈ endedLines s) :
    ∃ a b, s = a ++ (l ++ b) ∧ Ended a := by
  obtain ⟨before, after, hlines⟩ := List.append_of_mem hl
  refine ⟨before.flatten, after.flatten, ?_, ended_flatten (endedLine_of_endedLines hlines)⟩
  rw [← flatten_endedLines s, hlines, List.flatten_append, List.flatten_cons]

theorem ended_flatten_left {s : Text} {before after : List Text} {l : Text}
    (h : endedLines s = before ++ l :: after) : Ended before.flatten :=
  ended_flatten (endedLine_of_endedLines h)

/-- What stands behind an ended text starts a line. -/
theorem Ended.exists_mem_endedLines {a : Text} (ha : Ended a) {r : Text} (hr : '\n' ∉ r)
    (hne : r ≠ []) (b : Text) : ∃ l, r ++ l ∈ endedLines (a ++ (r ++ b)) := by
  obtain ⟨l, ls, hls⟩ := exists_endedLines_append hr hne b
  refine ⟨l, ?_⟩
  rw [ha.endedLines_append, hls]
  exact List.mem_append_right _ List.mem_cons_self

end Text

end Tidymark
