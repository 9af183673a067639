import Tidymark.Inline.Cleanup
import Tidymark.Proofs.Text.Pieces
import Tidymark.Proofs.Text.Words

/-!
# What inline cleanup changes

Cleanup drops blanks and writes asterisks for underscores, and does nothing
else to a text.  Both are changes of single characters, so a text is tidied
when each of its parts is, however it is cut: into regions, code spans, labels
and guarded stretches.
-/

namespace Tidymark

namespace Text

/-- A text with some blanks dropped and some underscores made asterisks. -/
inductive Tidied : Text → Text → Prop where
  | nil : Tidied [] []
  | char (c : Char) {s t : Text} (h : Tidied s t) : Tidied (c :: s) (c :: t)
  | drop {c : Char} (hc : isBlank c = true) {s t : Text} (h : Tidied s t) : Tidied (c :: s) t
  | star {s t : Text} (h : Tidied s t) : Tidied ('_' :: s) ('*' :: t)

/-- The characters that are not blank, with underscores read as asterisks. -/
def ink (s : Text) : Text := (s.filter (!isBlank ·)).map fun c => if c = '_' then '*' else c

namespace Tidied

theorem refl (s : Text) : Tidied s s := by
  induction s with
  | nil => exact .nil
  | cons c s ih => exact .char c ih

theorem append {s t s' t' : Text} (h : Tidied s t) (h' : Tidied s' t') :
    Tidied (s ++ s') (t ++ t') := by
  induction h with
  | nil => exact h'
  | char c _ ih => exact .char c ih
  | drop hc _ ih => exact .drop hc ih
  | star _ ih => exact .star ih

theorem trans {s t u : Text} (h : Tidied s t) (h' : Tidied t u) : Tidied s u := by
  induction h generalizing u with
  | nil => exact h'
  | char c _ ih =>
      cases h' with
      | char _ h' => exact .char c (ih h')
      | drop hc h' => exact .drop hc (ih h')
      | star h' => exact .star (ih h')
  | drop hc _ ih => exact .drop hc (ih h')
  | star _ ih =>
      cases h' with
      | char _ h' => exact .star (ih h')
      | drop hc _ => cases hc

theorem of_blanks {s : Text} (hs : ∀ c ∈ s, isBlank c = true) : Tidied s [] := by
  induction s with
  | nil => exact .nil
  | cons c s ih =>
      rw [List.forall_mem_cons] at hs
      exact .drop hs.1 (ih hs.2)

theorem trim (s : Text) : Tidied s (Text.trim s) := by
  have hstart : Tidied s (trimStart s) := by
    have hblank : ∀ c ∈ s.takeWhile isBlank, isBlank c = true := fun c hc =>
      List.mem_takeWhile_imp hc
    have hdrop := (of_blanks hblank).append (refl (s.dropWhile isBlank))
    rwa [List.takeWhile_append_dropWhile] at hdrop
  have hend : Tidied (trimStart s) (Text.trim s) := by
    obtain ⟨dropped, hblank, hsplit⟩ := exists_eq_dropEndWhile_append isBlank (trimStart s)
    have hdrop := (refl (Text.trim s)).append (of_blanks hblank)
    rw [List.append_nil] at hdrop
    rw [hsplit]
    exact hdrop
  exact hstart.trans hend

theorem mem_iff {s t : Text} (h : Tidied s t) {c : Char} (hc : isBlank c = false)
    (hline : c ≠ '_') (hstar : c ≠ '*') : c ∈ s ↔ c ∈ t := by
  induction h with
  | nil => rfl
  | char d _ ih => rw [List.mem_cons, List.mem_cons, ih]
  | @drop d hd s t _ ih =>
      have hne : c ≠ d := by
        rintro rfl
        rw [hc] at hd
        cases hd
      rw [List.mem_cons, or_iff_right hne, ih]
  | star _ ih => rw [List.mem_cons, List.mem_cons, or_iff_right hline, or_iff_right hstar, ih]

theorem ink_eq {s t : Text} (h : Tidied s t) : ink t = ink s := by
  have hline : isBlank '_' = false ∧ isBlank '*' = false := ⟨rfl, rfl⟩
  induction h with
  | nil => rfl
  | char c _ ih =>
      rw [ink, ink] at ih
      cases hc : isBlank c <;> simp [ink, hc, ih]
  | drop hc _ ih =>
      rw [ink, ink] at ih
      simp [ink, hc, ih]
  | star _ ih =>
      rw [ink, ink] at ih
      simp [ink, hline, ih]

end Tidied

end Text

/-! ## Parts of a text -/

theorem PaddedLabel.tidied_trimmed (l : PaddedLabel) : (pattern.source l).Tidied l.trimmed :=
  (Text.Tidied.char '[' (.trim l.label)).append (.refl [']', l.opener])

theorem PaddedLabel.tidied_trimAll (s : Text) : s.Tidied (trimAll s) :=
  pattern.relates_replace Text.Tidied.refl Text.Tidied.append tidied_trimmed s

theorem Emphasis.tidied_starAll (inWord : Bool) (s : Text) : s.Tidied (starAll inWord s) := by
  fun_induction starAll inWord s with
  | case1 => exact .nil
  | case2 inWord c s hc body rest hsplit hends ih =>
      rw [Bool.and_eq_true, decide_eq_true_eq] at hc
      rw [hc.1, (Text.splitAt?_eq_some_iff.mp hsplit).1]
      exact .star ((Text.Tidied.refl body).append (.star ih))
  | case3 inWord c s hc body rest hsplit hends ih => exact .char c ih
  | case4 inWord c s hc hsplit ih => exact .char c ih
  | case5 inWord c s hc ih => exact .char c ih

theorem CodeSpan.tidied_trim (span : CodeSpan) : span.source.Tidied span.trim.source := by
  rw [trim]
  split
  · exact .refl _
  · exact ((Text.Tidied.refl (delimiter span.run)).append (.trim span.content)).append (.refl _)

namespace Cleanup

theorem tidied_plain (s : Text) : s.Tidied (plain s) := by
  have hstars : Text.Tidied
      (Piece.textOf Guarded.pattern.source (Guarded.pattern.pieces (PaddedLabel.trimAll s)))
      (plain s) :=
    Piece.relates_mapText .nil .append (Emphasis.tidied_starAll false) .refl _
  rw [Guarded.pattern.textOf_pieces] at hstars
  exact (PaddedLabel.tidied_trimAll s).trans hstars

theorem tidied_prose (s : Text) : s.Tidied (prose s) := by
  have hpieces := Piece.relates_mapText Text.Tidied.nil .append tidied_plain
    CodeSpan.tidied_trim (CodeSpan.pieces s)
  rwa [CodeSpan.textOf_pieces] at hpieces

theorem tidied_region (r : Region) : r.text.Tidied (region r) := by
  cases r with
  | prose s => exact tidied_prose s
  | fenced s => exact .refl s

theorem tidied_regions (rs : List Region) :
    Text.Tidied (rs.flatMap Region.text) (rs.flatMap region) := by
  induction rs with
  | nil => exact .nil
  | cons r rs ih => exact (tidied_region r).append ih

end Cleanup

/-- Cleanup only drops blanks and makes asterisks of underscores, so a text without its blanks
reads the same before and after, if underscores are read as asterisks. -/
theorem tidied_cleanup (s : Text) : s.Tidied (cleanup s) ∧ (cleanup s).ink = s.ink := by
  have htidied : s.Tidied (cleanup s) := by
    have hregions := Cleanup.tidied_regions (Region.ofText s)
    rwa [Region.text_ofText] at hregions
  exact ⟨htidied, htidied.ink_eq⟩

end Tidymark
