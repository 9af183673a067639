import Tidymark.Proofs.Text.Words

/-!
# The ends of lines

A text is flush if no line of it ends in a space or a tab: behind each of them
stands another character on the same line.  Flush texts one behind the other
are flush, and so is what trimming or collapsing the lines of any text leaves.
-/

namespace Tidymark

namespace Text

/-- No line of a text ends in a space or a tab. -/
def Flush (s : Text) : Prop := ∀ l ∈ lines s, ∀ a, l.getLast? = some a → isSpaceOrTab a = false

theorem isBlank_of_isSpaceOrTab {a : Char} (h : isSpaceOrTab a = true) : isBlank a = true := by
  rw [isSpaceOrTab, Bool.or_eq_true, beq_iff_eq, beq_iff_eq] at h
  rcases h with rfl | rfl
  · rfl
  · rfl

theorem isSpaceOrTab_of_not_blank {a : Char} (h : isBlank a = false) : isSpaceOrTab a = false := by
  rw [← Bool.not_eq_true] at h ⊢
  exact mt isBlank_of_isSpaceOrTab h

/-! ## Character by character -/

theorem flush_nil : Flush [] := by
  intro l hl a ha
  rw [lines_nil, List.mem_singleton] at hl
  rw [hl] at ha
  cases ha

theorem flush_cons_break {s : Text} : Flush ('\n' :: s) ↔ Flush s := by
  rw [Flush, lines_cons_break, List.forall_mem_cons]
  constructor
  · exact And.right
  · intro h
    refine ⟨fun a ha => ?_, h⟩
    cases ha

theorem exists_lines_cons (s : Text) :
    ∃ first rest, lines s = first :: rest ∧
      (first ≠ [] ↔ ∃ b r, s = b :: r ∧ b ≠ '\n') := by
  cases s with
  | nil => exact ⟨[], [], rfl, by simp⟩
  | cons b r =>
      by_cases hb : b = '\n'
      · subst hb
        exact ⟨[], lines r, lines_cons_break r, by simp⟩
      · obtain ⟨first, rest, hr⟩ := List.exists_cons_of_ne_nil (lines_ne_nil r)
        exact ⟨b :: first, rest, by rw [lines_cons hb, hr, consFirst], by simp [hb]⟩

/-- Behind a space or a tab of a flush text the line goes on. -/
theorem flush_cons_iff {a : Char} {s : Text} :
    Flush (a :: s) ↔ (isSpaceOrTab a = true → ∃ b r, s = b :: r ∧ b ≠ '\n') ∧ Flush s := by
  by_cases ha : a = '\n'
  · subst ha
    have hbreak : isSpaceOrTab '\n' = false := rfl
    simp [flush_cons_break, hbreak]
  · obtain ⟨first, rest, hs, hfirst⟩ := exists_lines_cons s
    rw [← hfirst, Flush, Flush, lines_cons ha, hs, consFirst, List.forall_mem_cons,
      List.forall_mem_cons]
    cases first with
    | nil =>
        cases hspace : isSpaceOrTab a <;> simp [hspace]
    | cons b first =>
        have hlast : (a :: b :: first).getLast? = (b :: first).getLast? :=
          List.getLast?_cons_cons
        simp only [hlast, ne_eq, reduceCtorEq, not_false_eq_true, implies_true, true_and]

theorem Flush.append {s t : Text} (hs : Flush s) (ht : Flush t) : Flush (s ++ t) := by
  induction s with
  | nil => exact ht
  | cons a s ih =>
      rw [flush_cons_iff] at hs
      rw [List.cons_append, flush_cons_iff]
      refine ⟨fun ha => ?_, ih hs.2⟩
      obtain ⟨b, r, rfl, hb⟩ := hs.1 ha
      exact ⟨b, r ++ t, rfl, hb⟩

theorem Flush.of_append_right (s : Text) {t : Text} (h : Flush (s ++ t)) : Flush t := by
  induction s with
  | nil => exact h
  | cons a s ih => exact ih (flush_cons_iff.mp h).2

theorem Flush.cons {a : Char} (ha : isSpaceOrTab a = false) {s : Text} (hs : Flush s) :
    Flush (a :: s) := by
  rw [flush_cons_iff]
  refine ⟨fun h => ?_, hs⟩
  rw [ha] at h
  cases h

theorem Flush.spaces_append {b : Char} (hb : b ≠ '\n') {s : Text} (hs : Flush (b :: s)) (n : Nat) :
    Flush (List.replicate n ' ' ++ b :: s) := by
  induction n with
  | zero => exact hs
  | succ n ih =>
      rw [List.replicate_succ, List.cons_append, flush_cons_iff]
      refine ⟨fun _ => ?_, ih⟩
      cases n with
      | zero => exact ⟨b, s, rfl, hb⟩
      | succ n => exact ⟨' ', List.replicate n ' ' ++ b :: s, rfl, by decide⟩

theorem Flush.space_cons {b : Char} (hb : b ≠ '\n') {s : Text} (hs : Flush (b :: s)) :
    Flush (' ' :: b :: s) :=
  hs.spaces_append hb 1

theorem Flush.append_break {s : Text} (hs : Flush s) : Flush (s ++ ['\n']) :=
  hs.append (flush_cons_break.mpr flush_nil)

theorem Flush.append_blankLine {s : Text} (hs : Flush s) : Flush (s ++ ['\n', '\n']) :=
  hs.append (flush_cons_break.mpr (flush_cons_break.mpr flush_nil))

theorem flush_of_not_blank {s : Text} (hs : ∀ a ∈ s, isBlank a = false) : Flush s := by
  induction s with
  | nil => exact flush_nil
  | cons a s ih =>
      rw [List.forall_mem_cons] at hs
      exact (ih hs.2).cons (isSpaceOrTab_of_not_blank hs.1)

theorem flush_replicate {a : Char} (ha : isBlank a = false) (n : Nat) :
    Flush (List.replicate n a) := by
  apply flush_of_not_blank
  intro b hb
  rwa [List.eq_of_mem_replicate hb]

/-! ## Line by line -/

theorem flush_joinLines {ls : List Text}
    (hls : ∀ l ∈ ls, '\n' ∉ l ∧ ∀ a, l.getLast? = some a → isSpaceOrTab a = false) :
    Flush (joinLines ls) := by
  by_cases hne : ls = []
  · subst hne
    exact flush_nil
  · rw [Flush, lines_joinLines hne fun l hl => (hls l hl).1]
    exact fun l hl => (hls l hl).2

theorem flush_of_not_mem {s : Text} (hs : '\n' ∉ s)
    (hlast : ∀ a, s.getLast? = some a → isBlank a = false) : Flush s := by
  rw [Flush, lines_of_not_mem hs, List.forall_mem_singleton]
  exact fun a ha => isSpaceOrTab_of_not_blank (hlast a ha)

theorem Flush.of_mem_lines {s l : Text} (hs : Flush s) (hl : l ∈ lines s) : Flush l := by
  rw [Flush, lines_of_not_mem (not_mem_of_mem_lines hl), List.forall_mem_singleton]
  exact hs l hl

/-- What stands in front of a line feed or the end of a flush text is flush. -/
theorem Flush.of_append {s t : Text} (h : Flush (s ++ t))
    (ht : ∀ c, t.head? = some c → c = '\n') : Flush s := by
  cases t with
  | nil => rwa [List.append_nil] at h
  | cons c t =>
      have hc : c = '\n' := ht c rfl
      subst hc
      intro l hl
      apply h
      rw [lines_append_cons]
      exact List.mem_append_left _ hl

/-! ## Words on a line -/

/-- A text on one line that does not end in a blank, and is not empty. -/
structure Tight (s : Text) : Prop where
  ne_nil : s ≠ []
  not_mem : '\n' ∉ s
  last : ∀ a, s.getLast? = some a → isBlank a = false

theorem IsWord.tight {w : Text} (hw : IsWord w) : Tight w where
  ne_nil := hw.ne_nil
  not_mem h := by cases hw.not_blank _ h
  last a ha := hw.not_blank a (List.mem_of_getLast? ha)

theorem tight_joinWords {ts : List Text} (hne : ts ≠ []) (hts : ∀ t ∈ ts, Tight t) :
    Tight (joinWords ts) := by
  rcases List.eq_nil_or_concat ts with rfl | ⟨front, t, rfl⟩
  · exact absurd rfl hne
  · rw [List.concat_eq_append] at hts ⊢
    have ht : Tight t := hts t (by simp)
    have hlast := getLast?_joinWords ht.ne_nil front
    refine ⟨?_, break_not_mem_joinWords fun u hu => (hts u hu).not_mem, ?_⟩
    · intro hnil
      rw [hnil, eq_comm, List.getLast?_nil, List.getLast?_eq_none_iff] at hlast
      exact ht.ne_nil hlast
    · intro a ha
      rw [hlast] at ha
      exact ht.last a ha

theorem flush_joinWords_line {ws : List Text} (hws : ∀ w ∈ ws, IsWord w) :
    '\n' ∉ joinWords ws ∧ ∀ a, (joinWords ws).getLast? = some a → isSpaceOrTab a = false := by
  by_cases hne : ws = []
  · subst hne
    exact ⟨List.not_mem_nil, fun a ha => by cases ha⟩
  · have htight := tight_joinWords hne fun w hw => (hws w hw).tight
    exact ⟨htight.not_mem, fun a ha => isSpaceOrTab_of_not_blank (htight.last a ha)⟩

theorem flush_collapseBlanks (s : Text) : Flush (collapseBlanks s) := by
  rw [collapseBlanks]
  apply flush_joinLines
  intro l hl
  obtain ⟨line, _, rfl⟩ := List.mem_map.mp hl
  exact flush_joinWords_line fun w hw => isWord_of_mem_words hw

theorem flush_trimLineEnds (s : Text) : Flush (trimLineEnds s) := by
  rw [trimLineEnds]
  apply flush_joinLines
  intro l hl
  obtain ⟨line, hline, rfl⟩ := List.mem_map.mp hl
  refine ⟨fun hmem => ?_, fun a ha => getLast?_dropEndWhile ha⟩
  have hfront := dropEndWhile_prefix isSpaceOrTab line
  exact not_mem_of_mem_lines hline (hfront.subset hmem)

theorem Trimmed.flush {s : Text} (h : Trimmed s) (hs : '\n' ∉ s) : Flush s :=
  flush_of_not_mem hs h.last

end Text

end Tidymark
