import Tidymark.Proofs.Document.ReadShape
import Tidymark.Proofs.Inline.HeadingText
import Tidymark.Proofs.Render.Headings

/-!
# Headings on a line

Collapsing leaves no line feed in the text of a heading.  Carriage returns end
lines as well; they are blanks and go with the others, but stay where they
stand in code spans.  So a heading that is read is written on a line unless a
code span of it holds a carriage return.
-/

namespace Tidymark

open Markdown

/-! ## Characters that stay -/

namespace Text

theorem eq_space_of_mem_squeeze {c : Char} (hc : isBlank c = true) {s : Text}
    (h : c ∈ squeeze s) : c = ' ' := by
  obtain ⟨run, _, hrun⟩ := List.mem_flatMap.mp h
  split at hrun
  · exact List.mem_singleton.mp hrun
  · next hany => exact absurd (List.any_eq_true.mpr ⟨c, hrun, hc⟩) hany

theorem break_not_mem_unfoldLines (s : Text) : '\n' ∉ unfoldLines s := by
  intro hmem
  obtain ⟨c, _, hc⟩ := List.mem_map.mp hmem
  split at hc
  · cases hc
  · next hne => exact hne hc

theorem mem_unfoldLines_iff {c : Char} (hbreak : c ≠ '\n') (hspace : c ≠ ' ') {s : Text} :
    c ∈ unfoldLines s ↔ c ∈ s := by
  constructor
  · intro hmem
    obtain ⟨d, hd, hdc⟩ := List.mem_map.mp hmem
    split at hdc
    · exact absurd hdc.symm hspace
    · rwa [← hdc]
  · exact fun hmem => List.mem_map.mpr ⟨c, hmem, if_neg hbreak⟩

end Text

namespace CodeSpan

theorem mem_source_iff {span : CodeSpan} {c : Char} (hc : c ≠ backtick) :
    c ∈ span.source ↔ c ∈ span.content := by
  have hticks : c ∉ delimiter span.run := fun hmem => hc (List.eq_of_mem_replicate hmem)
  rw [source, List.mem_append, List.mem_append, or_iff_left hticks, or_iff_right hticks]

/-- A blank in the text of a heading that is no space stands in a code span. -/
theorem exists_of_mem_headingText {c : Char} (hblank : isBlank c = true) (hspace : c ≠ ' ')
    {s : Text} (h : c ∈ Text.headingText s) :
    ∃ span ∈ findAll s, c ∈ Text.unfoldLines span.source := by
  rcases Piece.exists_of_mem_mapText ((Text.trim_sublist _).subset h) with ⟨x, hx⟩ | hspan
  · rw [(Text.spaceRuns_eq_squeeze x).1] at hx
    exact absurd (Text.eq_space_of_mem_squeeze hblank hx) hspace
  · exact hspan

theorem break_not_mem_headingText (s : Text) : '\n' ∉ Text.headingText s := by
  intro hmem
  obtain ⟨span, _, hbreak⟩ := exists_of_mem_headingText rfl (by decide) hmem
  exact Text.break_not_mem_unfoldLines _ hbreak

theorem return_mem_unfold_iff (span : CodeSpan) :
    '\r' ∈ span.unfold.content ↔ '\r' ∈ span.content :=
  Text.mem_unfoldLines_iff (by decide) (by decide)

/-- Carriage returns stay in code spans, and nowhere else. -/
theorem return_mem_headingText_iff (s : Text) :
    '\r' ∈ Text.headingText s ↔ ∃ span ∈ findAll s, '\r' ∈ span.content := by
  constructor
  · intro hmem
    obtain ⟨span, hspan, hreturn⟩ := exists_of_mem_headingText rfl (by decide) hmem
    rw [Text.mem_unfoldLines_iff (by decide) (by decide), mem_source_iff (by decide)] at hreturn
    exact ⟨span, hspan, hreturn⟩
  · rintro ⟨span, hspan, hreturn⟩
    have hkept : span.unfold ∈ findAll (Text.headingText s) := by
      rw [(cut_headingText s).1]
      exact List.mem_map_of_mem hspan
    have hsource : '\r' ∈ span.unfold.source := by
      rwa [mem_source_iff (by decide), return_mem_unfold_iff]
    rw [← textOf_pieces (Text.headingText s)]
    exact Piece.mem_textOf hkept hsource

/-- The code spans that hold a carriage return are those of the heading text, too. -/
theorem return_mem_headingText_iff_self (s : Text) : '\r' ∈ Text.headingText s ↔
    ∃ span ∈ findAll (Text.headingText s), '\r' ∈ span.content := by
  rw [return_mem_headingText_iff, (cut_headingText s).1]
  simp only [List.mem_map, exists_exists_and_eq_and, return_mem_unfold_iff]

end CodeSpan

/-! ## Headings that are read -/

namespace Reading

/-- Putting the node of a block in front of others adds no heading but one whose text was
collapsed. -/
theorem exists_headingText_consBlock {source : Text} {b : Block} {ns : List Node}
    (hns : ∀ h, .heading h ∈ ns → ∃ s, h.text = Text.headingText s) :
    ∀ h, .heading h ∈ consBlock source b ns → ∃ s, h.text = Text.headingText s := by
  intro h hmem
  rcases consBlock_cases source b with ⟨l, plain, _, _, heq⟩ | ⟨n, hn, heq⟩
  · rw [heq] at hmem
    rcases Node.consList_cases plain ns with heq | ⟨next, rest, rfl, _, heq⟩
    · rw [heq] at hmem
      exact hns h ((List.mem_cons.mp hmem).resolve_left (by rintro ⟨⟩))
    · rw [heq] at hmem
      exact hns h (List.mem_cons_of_mem _ ((List.mem_cons.mp hmem).resolve_left (by rintro ⟨⟩)))
  · rw [heq] at hmem
    rcases List.mem_cons.mp hmem with rfl | hmem
    · obtain ⟨_, _, _, htext⟩ := hn.heading h rfl
      exact ⟨_, htext⟩
    · exact hns h hmem

/-- The text of a heading that is read is one that was collapsed. -/
theorem exists_headingText {source : Text} :
    ∀ h, .heading h ∈ Document.read source → ∃ s, h.text = Text.headingText s := by
  rw [Document.read]
  generalize hdefinitions : definitionNodes source _ _ = definitions
  induction (Source.read source).blocks with
  | nil =>
      intro h hmem
      rw [List.foldr_nil, ← hdefinitions, definitionNodes] at hmem
      split at hmem
      · cases hmem
      · cases List.mem_singleton.mp hmem
  | cons b blocks ih => exact exists_headingText_consBlock ih

end Reading

namespace Render

theorem exists_line_heading {h : Heading} (hlevel : 1 ≤ h.level ∧ h.level ≤ 6)
    (hbreak : '\n' ∉ h.text) (htrim : Text.trim h.text = h.text) :
    ∃ t line, heading h = .ok t ∧ (Text.lines t = [line, [], []] ∨ Underlined t line) ∧
      ('\r' ∈ t ↔ '\r' ∈ h.text) := by
  have hsetext : '\r' ∈ setextHeading h.level h.text ↔ '\r' ∈ h.text := by
    have hmark : '\r' ≠ if h.level = 1 then '=' else '-' := by split <;> decide
    simp [setextHeading, hmark]
  have hatx : '\r' ∈ atxHeading h.level h.text ↔ '\r' ∈ h.text := by
    by_cases hempty : h.text = []
    · simp [atxHeading, hempty]
    · cases hneeds : needsClosing h.text <;> simp [atxHeading, hempty, hneeds]
  rw [heading, if_pos hlevel, htrim]
  dsimp only
  split
  · refine ⟨_, h.text, rfl, .inr ?_, hsetext⟩
    exact ⟨_, _, by split <;> simp, by omega, lines_setextHeading hbreak h.level⟩
  · obtain ⟨line, hline⟩ := exists_lines_atxHeading hbreak h.level
    exact ⟨_, line, rfl, .inl hline, hatx⟩

end Render

/-- The text of a heading holds no line feed, and the carriage returns of its code spans only.  A
heading that is read is written on a line, with an underline below it or without one, and has no
carriage return in it unless a code span of it has. -/
theorem headings_on_a_line (s source : Text) :
    ('\n' ∉ Text.headingText s ∧
      ('\r' ∈ Text.headingText s ↔ ∃ span ∈ CodeSpan.findAll s, '\r' ∈ span.content)) ∧
      ∀ h, .heading h ∈ Document.read source →
        ∃ t line, Render.heading h = .ok t ∧
          (Text.lines t = [line, [], []] ∨ Render.Underlined t line) ∧
            ('\r' ∈ t ↔ ∃ span ∈ CodeSpan.findAll h.text, '\r' ∈ span.content) := by
  refine ⟨⟨CodeSpan.break_not_mem_headingText s, CodeSpan.return_mem_headingText_iff s⟩,
    fun h hmem => ?_⟩
  obtain ⟨title, hs⟩ := Reading.exists_headingText h hmem
  have hlevel : 1 ≤ h.level ∧ h.level ≤ 6 := (Document.renderable_read source).levels _ hmem
  have hbreak : '\n' ∉ h.text := hs ▸ CodeSpan.break_not_mem_headingText title
  have htrim : Text.trim h.text = h.text := by
    rw [hs]
    exact (Text.trimmed_trim _).trim_eq
  obtain ⟨t, line, ht, hline, hreturn⟩ := Render.exists_line_heading hlevel hbreak htrim
  refine ⟨t, line, ht, hline, hreturn.trans ?_⟩
  rw [hs]
  exact CodeSpan.return_mem_headingText_iff_self title

/-- An underlined heading of two lines that end with a carriage return and a line feed. -/
theorem headings_on_a_line_underlined :
    Document.read "a\r\nb\r\n===\r\n".toList = [.heading ⟨1, "a b".toList, .setext⟩] ∧
      ∃ t line, Render.heading ⟨1, "a b".toList, .setext⟩ = .ok t ∧
        (Text.lines t = [line, [], []] ∨ Render.Underlined t line) ∧ '\r' ∉ t := by
  have hread : Document.read "a\r\nb\r\n===\r\n".toList =
      [.heading ⟨1, "a b".toList, .setext⟩] := by with_unfolding_all rfl
  have hmem : .heading ⟨1, "a b".toList, .setext⟩ ∈
      Document.read "a\r\nb\r\n===\r\n".toList := by
    rw [hread]
    exact List.mem_cons_self
  obtain ⟨t, line, ht, hline, hreturn⟩ := (headings_on_a_line "a\r\nb".toList _).2 _ hmem
  have hspans : CodeSpan.findAll "a b".toList = [] := by decide +kernel
  refine ⟨hread, t, line, ht, hline, ?_⟩
  rw [hreturn, hspans]
  simp

/-- The carriage return between the lines of a code span stays in a heading. -/
theorem headings_not_only_on_a_line :
    ¬(∀ s, '\n' ∉ Text.headingText s ∧ '\r' ∉ Text.headingText s) ∧
      ¬∀ source h, .heading h ∈ Document.read source → '\n' ∉ h.text ∧ '\r' ∉ h.text := by
  refine ⟨fun hclaim => (hclaim "`a\r\nb`".toList).2 (by decide +kernel), fun hclaim => ?_⟩
  have hblocks : (Source.read "`a\r\nb`\r\n===\r\n".toList).blocks =
      [.heading ⟨0, 13⟩ 1 ⟨0, 6⟩] := by with_unfolding_all rfl
  have hmem : .heading ⟨1, Text.headingText (Text.inlineSlice "`a\r\nb`\r\n===\r\n".toList ⟨0, 6⟩),
      Reading.headingStyleOf "`a\r\nb`\r\n===\r\n".toList ⟨0, 13⟩⟩ ∈
        Document.read "`a\r\nb`\r\n===\r\n".toList := by
    rw [Document.read]
    generalize Reading.definitionNodes _ _ _ = definitions
    rw [hblocks]
    exact List.mem_cons_self
  exact (hclaim _ _ hmem).2 (by decide +kernel)

end Tidymark
