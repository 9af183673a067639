import Tidymark.Proofs.Format.Failures

/-!
# Formatting twice

A second pass of the standard rules leaves headings, lists and code blocks
alone.  Paragraphs and opaque text are worked over again, and a paragraph
need not be settled: it is filled before the blanks inside its links are
collapsed.
-/

namespace Tidymark

theorem Heading.tidy_tidy (c : HeadingConfig) (h : Heading) : (h.tidy c).tidy c = h.tidy c := by
  have htrim : Text.trim (Text.trim h.text) = Text.trim h.text :=
    (Text.trimmed_trim h.text).trim_eq
  have hlevel (n : Nat) : max 1 (min 6 (max 1 (min 6 n))) = max 1 (min 6 n) := by omega
  by_cases hnormalize : c.normalizeLevels = true
  · simp only [Heading.tidy, htrim, if_pos hnormalize, hlevel]
  · simp only [Heading.tidy, htrim, if_neg hnormalize]

theorem CodeBlock.tidy_tidy (c : CodeConfig) (b : CodeBlock) : (b.tidy c).tidy c = b.tidy c := by
  cases hfenced : b.fenced <;> simp [CodeBlock.tidy, hfenced]

theorem tidyParagraph_zero_idem (s : Text) :
    tidyParagraph 0 (tidyParagraph 0 s) = tidyParagraph 0 s :=
  Text.collapseBlanks_trim_idem s

/-- What a second pass makes of a node: only paragraphs and opaque text are worked over. -/
def Node.reworked (c : Config) : Node → Node
  | .paragraph s => .paragraph (tidyParagraph c.lineWidth s)
  | .text s => .text (cleanup s)
  | n => n

theorem Node.normalized_normalized (c : Config) {n : Node}
    (h : Placed.PlainItems n.descendants) :
    (n.normalized c).normalized c = (n.normalized c).reworked c := by
  cases n with
  | document _ | paragraph _ | text _ => rfl
  | heading g => exact congrArg Node.heading (g.tidy_tidy c.heading)
  | code b => exact congrArg Node.code (b.tidy_tidy c.code)
  | list l => exact congrArg Node.list (l.normalized_normalized c h)
  | item i => exact congrArg Node.item (i.normalized_normalized c h)

theorem Document.WellShaped.normalized_normalized (c : Config) {d : Document}
    (h : d.WellShaped) :
    (d.map (Node.normalized c)).map (Node.normalized c) =
      (d.map (Node.normalized c)).map (Node.reworked c) := by
  rw [List.map_map, List.map_map]
  exact List.map_congr_left fun n hn => Node.normalized_normalized c (h.plainItems hn)

namespace Engine

/-- A second standard pass works over the paragraphs and the opaque text of the first and nothing
else. -/
theorem format_standard_twice {c : Config} {d d' : Document} (h : standard.format c d = .ok d') :
    standard.format c d' = .ok (d'.map (Node.reworked c)) := by
  obtain ⟨hd, rfl⟩ := eq_map_normalized_of_format_standard h
  rw [format_standard_of_wellShaped c (hd.normalized c), hd.normalized_normalized c]

/-- A second standard pass changes nothing exactly if every paragraph and every opaque text of the
first is settled. -/
theorem format_standard_settled_iff {c : Config} {d d' : Document}
    (h : standard.format c d = .ok d') :
    standard.format c d' = .ok d' ↔ ∀ n ∈ d', n.reworked c = n := by
  have hmap := List.map_inj_left (f := Node.reworked c) (g := id) (l := d')
  rw [List.map_id] at hmap
  rw [format_standard_twice h, Except.ok.injEq]
  exact hmap

/-- Without a line width a second standard pass can only change opaque text. -/
theorem format_standard_settled_iff_of_zero {c : Config} (hc : c.lineWidth = 0) {d d' : Document}
    (h : standard.format c d = .ok d') :
    standard.format c d' = .ok d' ↔ ∀ s, .text s ∈ d' → cleanup s = s := by
  rw [format_standard_settled_iff h]
  constructor
  · intro hall s hs
    exact Node.text.inj (hall _ hs)
  · intro htexts n hn
    cases n with
    | text s => exact congrArg Node.text (htexts s hn)
    | paragraph s =>
        obtain ⟨_, rfl⟩ := eq_map_normalized_of_format_standard h
        obtain ⟨m, _, hm⟩ := List.mem_map.mp hn
        cases m with
        | paragraph s₀ =>
            cases hm
            simp only [Node.reworked, hc, tidyParagraph_zero_idem]
        | document _ | heading _ | list _ | item _ | code _ | text _ => cases hm
    | document _ | heading _ | list _ | item _ | code _ => rfl

end Engine

/-- A configuration with narrow lines. -/
def narrowConfig : Config := { lineWidth := 15 }

/-- Formatting twice need not be formatting once.  A link that is too long for its line before its
blanks are collapsed fits there on the second pass. -/
theorem formatText_not_idempotent :
    ¬∀ (c : Config) (s t : Text), c.list.consistentIndentation = true →
      c.whitespace.maxBlankLines ≠ 0 → formatText c s = .ok t → formatText c t = .ok t := by
  intro hidem
  have hfirst : formatText narrowConfig "aaa [b        c](d) ee\n".toList =
      .ok "aaa\n[b c](d)\nee\n".toList :=
    ok_of_toOption (by decide +kernel)
  have hsecond : formatText narrowConfig "aaa\n[b c](d)\nee\n".toList =
      .ok "aaa [b c](d) ee\n".toList :=
    ok_of_toOption (by decide +kernel)
  have hsettled := hidem narrowConfig _ _ rfl (by decide) hfirst
  rw [hsecond, Except.ok.injEq] at hsettled
  exact absurd hsettled (by decide)

end Tidymark
