import Tidymark.Proofs.Reflow.Stability
import Tidymark.Proofs.Render.BrokenLinks
import Tidymark.Proofs.Render.Content
import Tidymark.Rule

/-!
# Paragraphs tidied and written

Tidying a paragraph and writing it keep its words, so they keep its links but
for the blanks in them.  A paragraph without links is reflowed once: what the
rule leaves, the renderer writes as it is.
-/

namespace Tidymark

/-! ## Words -/

theorem words_tidyParagraph (width : Nat) (s : Text) :
    Text.words (tidyParagraph width s) = Text.words s := by
  rw [tidyParagraph, Text.words_collapseBlanks, Text.words_trim, words_reflow]

/-! ## Paragraphs without links -/

section NoLink

variable {width : Nat} (hwidth : 0 < width) {s : Text} (hs : Link.pattern.occursIn s = false)

include hwidth hs

theorem tidyParagraph_eq_reflow (hwords : Text.words s ≠ []) :
    tidyParagraph width s = reflow width s := by
  have htokens : Token.ofText s ≠ [] := by
    intro hnil
    rw [← Token.words_ofText, hnil] at hwords
    exact hwords rfl
  have hlaid := Token.laid_layout width s
  let ls := (Token.layout width s).map fun line => line.map (·.text)
  have hreflow : reflow width s = Text.joinLines (ls.map Text.joinWords) := by
    rw [Token.reflow_eq_layout hwidth htokens, List.map_map]
    rfl
  have hne : ∀ ws ∈ ls, ws ≠ [] := by
    intro ws hws
    obtain ⟨line, hline, rfl⟩ := List.mem_map.mp hws
    exact mt List.map_eq_nil_iff.mp (hlaid.ne_nil line hline)
  have hlines : ∀ ws ∈ ls, ∀ w ∈ ws, Text.IsWord w := by
    intro ws hws w hw
    obtain ⟨line, hline, rfl⟩ := List.mem_map.mp hws
    exact Token.isWord_of_mem_layout hs hline w hw
  have hls : ls ≠ [] := by
    intro hnil
    rw [← hlaid.flatten_eq, List.map_eq_nil_iff.mp hnil] at htokens
    exact htokens rfl
  rw [tidyParagraph, hreflow, (Text.trimmed_joinLines hne hlines).trim_eq,
    Text.collapseBlanks_joinLines hls hlines]

omit hwidth hs in
theorem tidyParagraph_of_words_eq_nil (hwords : Text.words s = []) :
    tidyParagraph width s = [] := by
  have htrim : Text.trim (reflow width s) = [] := by
    rw [Render.trim_eq_nil_iff, words_reflow, hwords]
  rw [tidyParagraph, htrim, Text.collapseBlanks, Text.lines_nil]
  simp [Text.joinWords, Text.joinLines]

theorem reflow_tidyParagraph : reflow width (tidyParagraph width s) = tidyParagraph width s := by
  by_cases hwords : Text.words s = []
  · rw [tidyParagraph_of_words_eq_nil hwords]
    exact reflow_of_eq_nil width (by rw [Token.ofText, Marked.ofText_nil, Token.ofMarked_nil])
  · rw [tidyParagraph_eq_reflow hwidth hs hwords, reflow_reflow]

end NoLink

namespace Render

/-- The rule and the renderer agree on a paragraph without links: what the rule leaves has no link,
needs no repair and is not broken anew, so it is written as it is.  It is the reflowed text, or
nothing if the text is blank. -/
theorem exists_paragraph_without_links {c : Config} (hwidth : 0 < c.lineWidth) {s : Text}
    (hs : Link.pattern.occursIn s = false) :
    ∃ p, Rule.paragraph.transform c (.paragraph s) = .ok (.paragraph p) ∧
      Link.pattern.occursIn p = false ∧ BrokenLink.repair p = p ∧ reflow c.lineWidth p = p ∧
      node c (.paragraph p) = .ok (p ++ ['\n', '\n']) ∧
      p = if Text.isAllBlank s then [] else reflow c.lineWidth s := by
  have hlink : Link.pattern.occursIn (tidyParagraph c.lineWidth s) = false := by
    rw [Link.occursIn_eq_of_words_eq (words_tidyParagraph c.lineWidth s), hs]
  have hrepair := BrokenLink.repair_eq_self (BrokenLink.occursIn_of_no_link hlink)
  have hreflow := reflow_tidyParagraph hwidth hs
  refine ⟨tidyParagraph c.lineWidth s, rfl, hlink, hrepair, hreflow, ?_, ?_⟩
  · rw [node, paragraph, paragraphText, hrepair, hlink, if_neg Bool.false_ne_true, hreflow]
  · split
    · next hblank => exact tidyParagraph_of_words_eq_nil (Text.words_of_isAllBlank hblank)
    · next hblank =>
        apply tidyParagraph_eq_reflow hwidth hs
        rw [ne_eq, Text.words_eq_nil_iff]
        exact mt List.all_eq_true.mpr hblank

/-- A paragraph of two lines, filled into two others. -/
theorem exists_paragraph_without_links_two :
    ∃ p, Rule.paragraph.transform { lineWidth := 8 } (.paragraph "one\ntwo three".toList) =
        .ok (.paragraph p) ∧
      Link.pattern.occursIn p = false ∧ BrokenLink.repair p = p ∧ reflow 8 p = p ∧
      node { lineWidth := 8 } (.paragraph p) = .ok (p ++ ['\n', '\n']) ∧
      p = "one two\nthree".toList := by
  have hlink : Link.pattern.occursIn "one\ntwo three".toList = false := by decide +kernel
  have hreflow : reflow 8 "one\ntwo three".toList = "one two\nthree".toList := by decide +kernel
  obtain ⟨p, htransform, hp, hrepair, hagain, hnode, htext⟩ :=
    exists_paragraph_without_links (c := { lineWidth := 8 }) (by decide) hlink
  exact ⟨p, htransform, hp, hrepair, hagain, hnode, htext.trans hreflow⟩

/-! ## Links of paragraphs -/

/-- No label in what is written for a paragraph spans lines. -/
theorem break_not_mem_label_paragraphText (width : Nat) (s : Text) :
    ∀ link ∈ Link.pattern.findAll (paragraphText width s), '\n' ∉ link.label := by
  rw [paragraphText]
  split
  · exact BrokenLink.break_not_mem_label (BrokenLink.occursIn_repair s)
  · next hlink =>
      rw [Bool.not_eq_true, ← Link.occursIn_eq_of_words_eq (words_reflow width _),
        Pattern.occursIn_eq_false_iff] at hlink
      rw [hlink]
      simp

/-- Links survive whole: each is found where it was among the others, with nothing but blanks
exchanged for blanks in it, and with its label on one line. -/
theorem exists_links_kept (c : Config) (s : Text) :
    ∃ p q, Rule.paragraph.transform c (.paragraph s) = .ok (.paragraph p) ∧
      node c (.paragraph p) = .ok (q ++ ['\n', '\n']) ∧
      (Link.pattern.ranges q).length = (Link.pattern.ranges s).length ∧
      List.Forall₂
        (fun span span' => ∃ link link' : Link, span.Cuts s link.source ∧
          span'.Cuts q link'.source ∧ link.Respaced link' ∧ '\n' ∉ link'.label)
        (Link.pattern.ranges s) (Link.pattern.ranges q) := by
  let p := tidyParagraph c.lineWidth s
  let q := paragraphText c.lineWidth p
  have hwords : Text.words s = Text.words q := by
    rw [words_paragraphText, words_tidyParagraph]
  have hlinks := Link.findAll_of_words_eq hwords
  have hread := Link.pattern.cuts_ranges s
  have hwritten := (List.forall₂_and_left _ _).mpr
    ⟨break_not_mem_label_paragraphText c.lineWidth p, (Link.pattern.cuts_ranges q).flip⟩
  have hfound := forall₂_comp hlinks hwritten
  have hspans := forall₂_comp hread hfound
  refine ⟨p, q, rfl, rfl, ?_, ?_⟩
  · exact hspans.length_eq.symm
  · refine hspans.imp ?_
    rintro span span' ⟨link, hcuts, link', hrespaced, hlabel, hcuts'⟩
    exact ⟨link, link', hcuts, hcuts', hrespaced, hlabel⟩

end Render

end Tidymark
