import Tidymark.Proofs.Inline.Emphases
import Tidymark.Proofs.Inline.Regions
import Mathlib.Logic.Function.Iterate

/-!
# How cleanup settles

A text stays as it is exactly if there is nothing left to clean up in its
prose.  One pass is enough for code spans, but labels that share a bracket and
emphasis inside emphasis take more of them; since each pass that changes a
text drops a blank or an underscore, there is a last one.
-/

namespace Tidymark

namespace Text

def untidy (s : Text) : Nat := s.countP fun c => isBlank c || c == '_'

namespace Tidied

variable {s t : Text}

/-- A text that is changed has fewer blanks and underscores. -/
theorem untidy_lt_or_eq (h : Tidied s t) : untidy t < untidy s ∨ t = s := by
  induction h with
  | nil => exact .inr rfl
  | @char c s t _ ih =>
      rw [untidy, untidy, List.countP_cons, List.countP_cons]
      rcases ih with hlt | rfl
      · exact .inl (Nat.add_lt_add_right hlt _)
      · exact .inr rfl
  | @drop c hc s t _ ih =>
      have hlt : untidy s < untidy (c :: s) := by simp [untidy, hc]
      rcases ih with hrest | rfl
      · exact .inl (hrest.trans hlt)
      · exact .inl hlt
  | @star s t _ ih =>
      have hlt : untidy s < untidy ('_' :: s) := by simp [untidy]
      have heq : untidy ('*' :: t) = untidy t := by simp [untidy, isBlank]
      rw [heq]
      rcases ih with hrest | rfl
      · exact .inl (hrest.trans hlt)
      · exact .inl hlt

theorem length_le (h : Tidied s t) : t.length ≤ s.length := by
  induction h with
  | nil => exact Nat.le_refl _
  | char _ _ ih => exact Nat.succ_le_succ ih
  | drop _ _ ih => exact Nat.le_succ_of_le ih
  | star _ ih => exact Nat.succ_le_succ ih

theorem antisymm (h : Tidied s t) (h' : Tidied t s) : s = t := by
  rcases h.untidy_lt_or_eq with hlt | heq
  · rcases h'.untidy_lt_or_eq with hlt' | heq
    · exact absurd hlt (Nat.lt_asymm hlt')
    · exact heq
  · exact heq.symm

end Tidied

end Text

/-! ## What stays as it is -/

namespace PaddedLabel

theorem trimmed_ne_of_read? {s rest : Text} {l : PaddedLabel} (h : read? s = some (l, rest)) :
    l.trimmed ≠ pattern.source l := by
  intro heq
  have hlabel : Text.trim l.label = l.label :=
    List.append_cancel_right (List.cons.inj heq).2
  have hblank : l.label.head?.any isBlank = true := by
    unfold read? at h
    split at h
    · split at h
      · split at h
        · next hpadded =>
            cases h
            simp only [Bool.and_eq_true] at hpadded
            exact hpadded.1.1.2
        · cases h
      · cases h
    · cases h
  obtain ⟨c, hc, hcblank⟩ := (Option.any_eq_true ..).mp hblank
  rw [(Text.trimmed_trim l.label).head c (by rw [hlabel, hc])] at hcblank
  cases hcblank

theorem trimAll_eq_self_iff (s : Text) : trimAll s = s ↔ pattern.findAll s = [] := by
  have hne : ∀ l ∈ Piece.finds (pattern.pieces s), l.trimmed ≠ pattern.source l := by
    intro l hl
    obtain ⟨_, _, _, _, hread⟩ := pattern.exists_read_of_mem_findAll hl
    exact trimmed_ne_of_read? hread
  have hiff := Piece.textOf_eq_textOf_iff (fun l => (tidied_trimmed l).length_le) hne
  rwa [pattern.textOf_pieces, ← Piece.mapText_id] at hiff

end PaddedLabel

namespace Emphasis

theorem behind_eq_nil_iff (front : Text) (ps : List (Piece Text)) :
    behind front ps = [] ↔ Piece.finds ps = [] := by
  induction ps generalizing front with
  | nil => exact iff_of_true rfl rfl
  | cons p ps ih =>
      cases p with
      | plain s => exact ih (front ++ s)
      | found body => exact iff_of_false (List.cons_ne_nil _ _) (List.cons_ne_nil _ _)

theorem stars_eq_self_iff (s : Text) : Cleanup.stars s = s ↔ findAll s = [] := by
  have hne : ∀ body ∈ Piece.finds (unguarded s), starred body ≠ lined body := by
    intro body _ heq
    cases heq
  have hlength (body : Text) : (starred body).length ≤ (lined body).length := by
    simp [starred, lined]
  rw [findAll, behind_eq_nil_iff, ← Piece.textOf_eq_textOf_iff hlength hne, textOf_unguarded,
    stars_eq]

end Emphasis

namespace Cleanup

/-- There is nothing to clean up in a piece of prose. -/
inductive Settled : Piece CodeSpan → Prop where
  | plain {s : Text} (hlabels : PaddedLabel.pattern.findAll s = [])
      (hemphases : Emphasis.findAll s = []) : Settled (.plain s)
  | found {span : CodeSpan} (hspan : ¬span.Padded) : Settled (.found span)

theorem plain_eq_self_iff (s : Text) :
    plain s = s ↔ PaddedLabel.pattern.findAll s = [] ∧ Emphasis.findAll s = [] := by
  rw [← PaddedLabel.trimAll_eq_self_iff, ← Emphasis.stars_eq_self_iff, plain_eq]
  constructor
  · intro h
    have hstars : (PaddedLabel.trimAll s).Tidied (stars (PaddedLabel.trimAll s)) :=
      (Text.Tightened.of_starred (starred_stars _) ' ').tidied
    rw [h] at hstars
    have htrimmed := hstars.antisymm (PaddedLabel.tidied_trimAll s)
    rw [htrimmed] at h
    exact ⟨htrimmed, h⟩
  · rintro ⟨htrimmed, hstars⟩
    rw [htrimmed, hstars]

end Cleanup

theorem CodeSpan.trim_eq_self_iff (span : CodeSpan) : span.trim = span ↔ ¬span.Padded := by
  rcases span.trim_cases with ⟨hpadded, htrim⟩ | ⟨hpadded, htrim⟩
  · refine iff_of_false (fun heq => ?_) (not_not_intro hpadded)
    rw [htrim] at heq
    obtain ⟨c, hc, hblank⟩ := hpadded.first
    have hcontent : Text.trim span.content = span.content := congrArg content heq
    rw [(Text.trimmed_trim span.content).head c (by rw [hcontent, hc])] at hblank
    cases hblank
  · exact iff_of_true htrim hpadded

namespace Cleanup

theorem piece_eq_self_iff (p : Piece CodeSpan) : piece p = p ↔ Settled p := by
  cases p with
  | plain s =>
      rw [piece, Piece.plain.injEq, plain_eq_self_iff]
      exact ⟨fun h => .plain h.1 h.2, fun h => by cases h with | plain h h' => exact ⟨h, h'⟩⟩
  | found span =>
      rw [piece, Piece.found.injEq, CodeSpan.trim_eq_self_iff]
      exact ⟨.found, fun h => by cases h with | found h => exact h⟩

theorem map_piece_eq_self_iff (ps : List (Piece CodeSpan)) :
    ps.map piece = ps ↔ ∀ p ∈ ps, Settled p := by
  have hmap := List.map_inj_left (l := ps) (f := piece) (g := id)
  rw [List.map_id] at hmap
  exact hmap.trans (forall₂_congr fun p _ => piece_eq_self_iff p)

/-! ## All pieces of a text -/

/-- The code spans of the prose of a text and the plain stretches between. -/
def pieces (s : Text) : List (Piece CodeSpan) :=
  (Region.ofText s).flatMap fun
    | .prose t => CodeSpan.pieces t
    | .fenced _ => []

theorem tidied_written (s : Text) : s.Tidied (cleanup s) := by
  have hregions := tidied_regions (Region.ofText s)
  rwa [Region.text_ofText] at hregions

/-- The pieces of cleaned text are those of the text cleaned up. -/
theorem pieces_cleanup (s : Text) : pieces (cleanup s) = (pieces s).map piece := by
  rw [pieces, ofText_cleanup, pieces, List.flatMap_map, List.map_flatMap]
  congr 1
  funext r
  cases r with
  | prose t => exact pieces_prose t
  | fenced t => rfl

theorem region_eq_text {r : Region}
    (hr : ∀ t, r = .prose t → ∀ p ∈ CodeSpan.pieces t, Settled p) : region r = r.text := by
  cases r with
  | prose t =>
      have hsame := (map_piece_eq_self_iff _).mpr (hr t rfl)
      rw [region, prose_eq, hsame, CodeSpan.textOf_pieces]
      rfl
  | fenced t => rfl

/-- A text stays as it is exactly if there is nothing to clean up in any piece of its prose. -/
theorem cleanup_eq_self_iff (s : Text) : cleanup s = s ↔ ∀ p ∈ pieces s, Settled p := by
  constructor
  · intro h
    rw [← map_piece_eq_self_iff, ← pieces_cleanup, h]
  · intro h
    have hregions : (Region.ofText s).flatMap region = (Region.ofText s).flatMap Region.text := by
      refine List.flatMap_congr fun r hr => region_eq_text ?_
      rintro t rfl p hp
      exact h p (List.mem_flatMap.mpr ⟨.prose t, hr, hp⟩)
    rw [cleanup, hregions, Region.text_ofText]

end Cleanup

/-- A second pass changes nothing exactly if the first one has left no padded label and no
emphasis in any plain stretch; and some pass, no later than there are blanks and underscores in
the text, is the last one to change anything. -/
theorem cleanup_settles (s : Text) :
    (cleanup (cleanup s) = cleanup s ↔ ∀ x, Piece.plain x ∈ Cleanup.pieces s →
      PaddedLabel.pattern.findAll (Cleanup.plain x) = [] ∧
        Emphasis.findAll (Cleanup.plain x) = []) ∧
    ∃ n ≤ s.untidy, cleanup (cleanup^[n] s) = cleanup^[n] s := by
  constructor
  · rw [Cleanup.cleanup_eq_self_iff, Cleanup.pieces_cleanup, List.forall_mem_map]
    constructor
    · intro h x hx
      cases h _ hx with
      | plain hlabels hemphases => exact ⟨hlabels, hemphases⟩
    · intro h p hp
      cases p with
      | plain x => exact .plain (h x hp).1 (h x hp).2
      | found span =>
          exact .found ((CodeSpan.trim_eq_self_iff _).mp span.trim_trim)
  · induction hn : s.untidy using Nat.strongRecOn generalizing s with
    | ind n ih =>
      subst hn
      rcases (Cleanup.tidied_written s).untidy_lt_or_eq with hlt | heq
      · obtain ⟨n, hn, hsettled⟩ := ih _ hlt (cleanup s) rfl
        exact ⟨n + 1, Nat.succ_le_of_lt (hn.trans_lt hlt), hsettled⟩
      · exact ⟨0, Nat.zero_le _, heq⟩

/-- One pass is not always enough: a label keeps its blanks behind a trimmed one. -/
theorem cleanup_not_only_settled : ¬∀ s, cleanup (cleanup s) = cleanup s := by
  intro h
  have hsettled := h "[ a ][ b ](c)".toList
  revert hsettled
  decide +kernel

end Tidymark
