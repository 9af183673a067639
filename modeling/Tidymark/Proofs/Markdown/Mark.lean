import Tidymark.Markdown.Mark

/-!
# What marks say

The levels that hashes and underlines give to headings, and the lines that
are thematic breaks.
-/

namespace Tidymark

namespace Markdown

theorem atxLevel?_range {s : Text} {level : Nat} (h : atxLevel? s = some level) :
    1 ≤ level ∧ level ≤ 6 := by
  rw [atxLevel?] at h
  simp only [Option.ite_none_right_eq_some, Bool.and_eq_true, decide_eq_true_eq,
    Option.some.injEq] at h
  obtain ⟨⟨⟨_, hlow⟩, hhigh⟩, rfl⟩ := h
  exact ⟨hlow, hhigh⟩

theorem underline?_range {s : Text} {level length : Nat}
    (h : underline? s = some (level, length)) : 1 ≤ level ∧ level ≤ 6 := by
  cases s with
  | nil => cases h
  | cons c rest =>
      rw [underline?] at h
      split at h
      · obtain ⟨n, _, hn⟩ := Option.map_eq_some_iff.mp h
        cases hn
        split <;> decide
      · cases h

/-- The marks of a line are counted if it holds nothing else but spaces and tabs; `tail` is the end
of the line with what stands behind it. -/
theorem countMarks?_append_iff (mark : Char) {line : Text} (hline : ∀ c ∈ line, isLineEnd c = false)
    {tail : Text} {ending : Nat} (htail : countMarks? mark tail = some (0, ending)) {n k : Nat} :
    countMarks? mark (line ++ tail) = some (n, k) ↔
      (∀ c ∈ line, c = mark ∨ c = ' ' ∨ c = '\t') ∧ line.count mark = n ∧
        ending + line.length = k := by
  induction line generalizing n k with
  | nil =>
      rw [List.nil_append, htail, Option.some.injEq, Prod.mk.injEq]
      exact ⟨fun h => ⟨by simp, h⟩, fun h => h.2⟩
  | cons c line ih =>
      obtain ⟨hc, hline⟩ := List.forall_mem_cons.mp hline
      rw [List.cons_append, countMarks?, if_neg (by simp [hc]), List.forall_mem_cons]
      by_cases hsame : c = mark
      · rw [if_pos hsame, Option.map_eq_some_iff, hsame, List.count_cons_self]
        constructor
        · rintro ⟨⟨n, k⟩, hrest, heq⟩
          cases heq
          obtain ⟨hall, rfl, rfl⟩ := (ih hline).mp hrest
          exact ⟨⟨.inl rfl, hall⟩, rfl, rfl⟩
        · rintro ⟨⟨_, hall⟩, rfl, rfl⟩
          exact ⟨_, (ih hline).mpr ⟨hall, rfl, rfl⟩, rfl⟩
      · by_cases hblank : c = ' ' ∨ c = '\t'
        · rw [if_neg hsame, if_pos hblank, Option.map_eq_some_iff, List.count_cons_of_ne hsame]
          constructor
          · rintro ⟨⟨n, k⟩, hrest, heq⟩
            cases heq
            obtain ⟨hall, rfl, rfl⟩ := (ih hline).mp hrest
            exact ⟨⟨.inr hblank, hall⟩, rfl, rfl⟩
          · rintro ⟨⟨_, hall⟩, rfl, rfl⟩
            exact ⟨_, (ih hline).mpr ⟨hall, rfl, rfl⟩, rfl⟩
        · rw [if_neg hsame, if_neg hblank]
          constructor
          · intro h
            cases h
          · rintro ⟨⟨hsame' | hblank', _⟩, _⟩
            · exact absurd hsame' hsame
            · exact absurd hblank' hblank

theorem thematicBreak?_append_iff {mark : Char} (hmark : mark = '*' ∨ mark = '-' ∨ mark = '_')
    {line : Text} (hline : ∀ c ∈ mark :: line, isLineEnd c = false) {tail : Text} {ending : Nat}
    (htail : countMarks? mark tail = some (0, ending)) :
    (thematicBreak? (mark :: line ++ tail)).isSome ↔
      (∀ c ∈ mark :: line, c = mark ∨ c = ' ' ∨ c = '\t') ∧ 3 ≤ (mark :: line).count mark := by
  rw [List.cons_append, thematicBreak?, if_pos hmark, ← List.cons_append]
  cases hcount : countMarks? mark (mark :: line ++ tail) with
  | none =>
      constructor
      · intro h
        cases h
      · rintro ⟨hall, _⟩
        have hsome := (countMarks?_append_iff mark hline htail).mpr ⟨hall, rfl, rfl⟩
        rw [hcount] at hsome
        cases hsome
  | some found =>
      obtain ⟨hall, hn, _⟩ := (countMarks?_append_iff mark hline htail).mp hcount
      rw [hn, Option.isSome_ite]
      exact ⟨fun hthree => ⟨hall, hthree⟩, fun h => h.2⟩

theorem thematicBreak?_cons_iff {mark : Char} (hmark : mark = '*' ∨ mark = '-' ∨ mark = '_')
    {line : Text} (hline : ∀ c ∈ mark :: line, isLineEnd c = false) :
    (thematicBreak? (mark :: line)).isSome ↔
      (∀ c ∈ mark :: line, c = mark ∨ c = ' ' ∨ c = '\t') ∧ 3 ≤ (mark :: line).count mark := by
  have hend : countMarks? mark [] = some (0, 0) := rfl
  have hiff := thematicBreak?_append_iff hmark hline hend
  rwa [List.append_nil] at hiff

/-- A line that starts with a mark of thematic breaks is one exactly if the mark stands there
three times and nothing else but spaces and tabs. -/
theorem thematicBreak?_line_iff {mark : Char} (hmark : mark = '*' ∨ mark = '-' ∨ mark = '_')
    {line : Text} (hline : ∀ c ∈ mark :: line, isLineEnd c = false) (rest : Text) :
    (thematicBreak? (mark :: line ++ '\n' :: rest)).isSome ↔
      (∀ c ∈ mark :: line, c = mark ∨ c = ' ' ∨ c = '\t') ∧ 3 ≤ (mark :: line).count mark := by
  have hend : countMarks? mark ('\n' :: rest) = some (0, 1) := rfl
  exact thematicBreak?_append_iff hmark hline hend

end Markdown

end Tidymark
