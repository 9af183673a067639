import Tidymark.Proofs.Inline.CodeSpans

/-!
# Code spans of cleaned prose

Cleaned prose is cut where the prose was: each plain stretch is read as plain
again, and each code span as a code span, with its content as it was or
trimmed.
-/

namespace Tidymark

open Text (Tightened runs)

/-! ## Plain stretches -/

theorem CodeSpan.Passes.tightened {x r : Text} (h : Passes x r) {p : Char} {y : Text}
    (hxy : Tightened .plain p x y) {r' : Text} (hr : ∀ q, Tightened .prose q r r') :
    Passes y r' := by
  induction h generalizing p y with
  | nil =>
      cases hxy
      exact .nil
  | @escape x r c _ ih =>
      obtain ⟨y, t, rfl, hy, hrest⟩ := hxy.exists_of_cons rfl
      cases hy
      cases hrest with
      | char _ hrest => exact .escape _ (ih hrest hr)
      | drop _ hseam hrest =>
          cases hseam with
          | closing =>
              have hpass := ih hrest hr
              exact .escape ']' (hpass.of_cons (by decide) (by decide))
  | @char c x r htick hslash _ ih =>
      cases hxy with
      | char hcy hrest =>
          refine .char ?_ ?_ (ih hrest hr)
          · rwa [ne_eq, ← hcy.eq_iff (by decide) (by decide)]
          · rwa [ne_eq, ← hcy.eq_iff (by decide) (by decide)]
      | drop _ _ hrest => exact ih hrest hr
  | slash =>
      obtain ⟨y, t, rfl, hy, hrest⟩ := hxy.exists_of_cons rfl
      cases hy
      rw [hrest.eq_nil_right, (hr ' ').eq_nil_right]
      exact .slash
  | @run n x r hn hnext hrun _ ih =>
      obtain ⟨y, rfl, hrest⟩ := hxy.exists_of_delimiter hn
      have hwhole : Tightened .prose backtick (x ++ r) (y ++ r') := hrest.to_prose.append hr
      refine .run hn ?_ ?_ (ih hrest hr)
      · rwa [ne_eq, ← hwhole.head?_eq_backtick_iff]
      · rwa [← hwhole.runs_eq]

/-! ## Code spans -/

/-- A code span with blanks on both sides of its content, which is not blank and neither begins
nor ends with a backtick once trimmed. -/
structure CodeSpan.Padded (span : CodeSpan) : Prop where
  first : ∃ c, span.content.head? = some c ∧ isBlank c = true
  last : ∃ c, span.content.getLast? = some c ∧ isBlank c = true
  not_blank : Text.isAllBlank span.content = false
  head_ne : (Text.trim span.content).head? ≠ some backtick
  last_ne : (Text.trim span.content).getLast? ≠ some backtick

namespace CodeSpan

theorem trim_eq_nil_iff {s : Text} : Text.trim s = [] ↔ Text.isAllBlank s = true := by
  obtain ⟨g, k, hg, hk, hs⟩ := Text.exists_eq_append_trim_append s
  rw [Text.isAllBlank, List.all_eq_true]
  constructor
  · intro hnil
    rw [hs, hnil, List.nil_append]
    exact List.forall_mem_append.mpr ⟨hg, hk⟩
  · intro hblank
    rw [List.eq_nil_iff_forall_not_mem]
    intro c hc
    obtain ⟨d, r, hd⟩ := List.exists_cons_of_ne_nil (List.ne_nil_of_mem hc)
    have hdark := (Text.trimmed_trim s).head d (by rw [hd]; rfl)
    have hmem : d ∈ s := by
      rw [hs, hd]
      simp
    rw [hblank d hmem] at hdark
    cases hdark

/-- Exactly the padded spans are trimmed. -/
theorem trim_cases (span : CodeSpan) :
    span.Padded ∧ span.trim = ⟨span.run, Text.trim span.content⟩ ∨
      ¬span.Padded ∧ span.trim = span := by
  rw [trim]
  split
  · next h =>
      refine .inr ⟨fun hpadded => ?_, rfl⟩
      have hempty : (Text.trim span.content).isEmpty = false := by
        rw [List.isEmpty_eq_false_iff, ne_eq, trim_eq_nil_iff, hpadded.not_blank]
        exact Bool.false_ne_true
      obtain ⟨c, hc, hcblank⟩ := hpadded.first
      obtain ⟨d, hd, hdblank⟩ := hpadded.last
      have hhead := hpadded.head_ne
      have hlast := hpadded.last_ne
      simp [hc, hd, hcblank, hdblank, hempty, hhead, hlast] at h
  · next h =>
      simp only [Bool.not_eq_true', Bool.or_eq_true, beq_iff_eq, not_or, Bool.not_eq_false,
        Bool.and_eq_true, Option.any_eq_true] at h
      obtain ⟨⟨⟨⟨⟨c, hc⟩, d, hd⟩, hempty⟩, hhead⟩, hlast⟩ := h
      refine .inl ⟨⟨⟨c, hc⟩, ⟨d, hd⟩, ?_, hhead, hlast⟩, rfl⟩
      rw [List.isEmpty_iff, trim_eq_nil_iff] at hempty
      exact eq_false_of_ne_true hempty

/-- A code span as it was, or trimmed if it was padded. -/
def Kept (span span' : CodeSpan) : Prop :=
  span.Padded ∧ span' = ⟨span.run, Text.trim span.content⟩ ∨ ¬span.Padded ∧ span' = span

/-- The code spans of a text, from left to right. -/
def findAll (s : Text) : List CodeSpan := Piece.finds (pieces s)

/-- The ranges of code spans cut them out of the text. -/
theorem cuts_ranges (s : Text) :
    List.Forall₂ (fun range span => range.Cuts s span.source) (ranges s) (findAll s) := by
  have hcuts := @Piece.cuts_spans _ source [] (pieces s)
  rwa [List.nil_append, textOf_pieces] at hcuts

variable {span : CodeSpan} {after : Text}

theorem Stands.tightened_trim (h : span.Stands after) (p : Char) :
    Tightened .prose p span.source span.trim.source := by
  rcases span.trim_cases with ⟨hpadded, htrim⟩ | ⟨_, htrim⟩
  · obtain ⟨n, hn⟩ := Nat.exists_eq_succ_of_ne_zero h.run_ne_zero
    have hlast : (delimiter span.run).getLast? = some backtick := by
      rw [delimiter, List.getLast?_replicate, if_neg h.run_ne_zero]
    have hcontent : Tightened .prose backtick (span.content ++ delimiter span.run)
        (Text.trim span.content ++ delimiter span.run) := by
      rw [hn]
      refine .trim ?_ ?_ ?_ (.refl backtick (List.replicate n backtick))
      · intro c hc
        refine .afterTicks ((Text.trimmed_trim _).head c hc) ?_
        rintro rfl
        exact hpadded.head_ne hc
      · intro c hc
        refine .beforeTicks ((Text.trimmed_trim _).last c hc) ?_
        rintro rfl
        exact hpadded.last_ne hc
      · intro hempty
        rw [trim_eq_nil_iff, hpadded.not_blank] at hempty
        cases hempty
    rw [htrim, source, source, List.append_assoc, List.append_assoc]
    exact hcontent.keep hlast p
  · rw [htrim]
    exact .refl p _

theorem Stands.trim (h : span.Stands after) {after' : Text}
    (hafter : ∀ q, Tightened .prose q after after') : span.trim.Stands after' := by
  have hnext : after'.head? ≠ some backtick := by
    rw [ne_eq, ← (hafter backtick).head?_eq_backtick_iff]
    exact h.after
  rcases span.trim_cases with ⟨hpadded, htrim⟩ | ⟨_, htrim⟩
  · obtain ⟨g, k, hg, hk, hcontent⟩ := Text.exists_eq_append_trim_append span.content
    have hne : Text.trim span.content ≠ [] := by
      rw [ne_eq, trim_eq_nil_iff, hpadded.not_blank]
      exact Bool.false_ne_true
    have hnot : ∀ {r : Text}, (∀ c ∈ r, isBlank c = true) → backtick ∉ r := by
      intro r hr hmem
      cases hr backtick hmem
    have hruns : runs backtick span.content = runs backtick (Text.trim span.content) := by
      have hg' : g.getLast? ≠ some backtick := fun hlast => hnot hg (List.mem_of_getLast? hlast)
      conv => lhs; rw [hcontent]
      rw [Text.runs_append hg', Text.runs_of_not_mem (hnot hg), List.nil_append,
        Text.runs_append hpadded.last_ne, Text.runs_of_not_mem (hnot hk), List.append_nil]
    rw [htrim]
    refine ⟨h.run_ne_zero, hne, hpadded.head_ne, hpadded.last_ne, ?_, hnext⟩
    rw [← hruns]
    exact h.run_not_mem
  · rw [htrim]
    exact { h with after := hnext }

theorem trim_trim (span : CodeSpan) : span.trim.trim = span.trim := by
  rcases span.trim_cases with ⟨_, htrim⟩ | ⟨_, htrim⟩
  · rw [htrim]
    rcases trim_cases ⟨span.run, Text.trim span.content⟩ with ⟨hpadded, _⟩ | ⟨_, hagain⟩
    · obtain ⟨c, hc, hblank⟩ := hpadded.first
      rw [(Text.trimmed_trim span.content).head c hc] at hblank
      cases hblank
    · exact hagain
  · rw [htrim, htrim]

end CodeSpan

namespace Cleanup

/-- A piece of prose cleaned up. -/
def piece : Piece CodeSpan → Piece CodeSpan
  | .plain s => .plain (plain s)
  | .found span => .found span.trim

theorem textOf_map_piece (ps : List (Piece CodeSpan)) :
    Piece.textOf CodeSpan.source (ps.map piece) =
      Piece.mapText plain (fun span => span.trim.source) ps := by
  induction ps with
  | nil => rfl
  | cons p ps ih =>
      cases p with
      | plain s => exact congrArg (plain s ++ ·) ih
      | found span => exact congrArg (span.trim.source ++ ·) ih

theorem prose_eq (s : Text) :
    prose s = Piece.textOf CodeSpan.source ((CodeSpan.pieces s).map piece) :=
  (textOf_map_piece _).symm

/-- Prose cut into pieces is tightened piece by piece, and what comes out is cut into the pieces
cleaned up. -/
theorem cuts_map_piece {s : Text} {ps : List (Piece CodeSpan)} (h : CodeSpan.Cuts s ps) :
    CodeSpan.Cuts (Piece.textOf CodeSpan.source (ps.map piece)) (ps.map piece) ∧
      ∀ q, Tightened .prose q s (Piece.textOf CodeSpan.source (ps.map piece)) := by
  induction h with
  | nil => exact ⟨.nil, fun _ => .nil⟩
  | found hspan _ ih =>
      obtain ⟨hcuts, htight⟩ := ih
      exact ⟨.found (hspan.trim htight) hcuts, fun q => (hspan.tightened_trim q).append htight⟩
  | @plain x r ps hx hpass hnext _ ih =>
      obtain ⟨hcuts, htight⟩ := ih
      have hplain := tightened_plain x
      refine ⟨.plain ?_ (hpass.tightened (hplain ' ') htight) ?_ hcuts,
        fun q => ((hplain q).to_prose).append htight⟩
      · intro hnil
        have hnone : Tightened .plain ' ' x [] := hnil ▸ hplain ' '
        exact hx hnone.eq_nil
      · intro y qs hps
        cases ps with
        | nil => cases hps
        | cons p ps =>
            cases p with
            | plain z => exact hnext z ps rfl
            | found span => cases hps

/-- Cleaned prose is cut into the cleaned pieces of the prose. -/
theorem pieces_prose (s : Text) : CodeSpan.pieces (prose s) = (CodeSpan.pieces s).map piece := by
  rw [prose_eq]
  exact (cuts_map_piece (CodeSpan.cuts_pieces s)).1.pieces_eq

theorem tightened_prose (s : Text) (q : Char) : Tightened .prose q s (prose s) := by
  rw [prose_eq]
  exact (cuts_map_piece (CodeSpan.cuts_pieces s)).2 q

theorem prose_eq_plain {s : Text} (hs : backtick ∉ s) : prose s = plain s := by
  cases s with
  | nil =>
      rw [prose, CodeSpan.pieces]
      exact (tightened_plain [] ' ').eq_nil_right.symm
  | cons c s =>
      have hcuts : CodeSpan.Cuts (c :: s ++ []) [.plain (c :: s)] :=
        .plain (List.cons_ne_nil c s) (.of_not_mem hs) (fun y qs h => by cases h) .nil
      rw [List.append_nil] at hcuts
      rw [prose, hcuts.pieces_eq]
      exact List.append_nil _

theorem finds_map_piece (ps : List (Piece CodeSpan)) :
    Piece.finds (ps.map piece) = (Piece.finds ps).map CodeSpan.trim := by
  induction ps with
  | nil => rfl
  | cons p ps ih =>
      cases p with
      | plain s => exact ih
      | found span => exact congrArg (span.trim :: ·) ih

/-- Cleaned prose has the code spans of the prose, the padded ones trimmed. -/
theorem kept_findAll_prose (s : Text) :
    List.Forall₂ CodeSpan.Kept (CodeSpan.findAll s) (CodeSpan.findAll (prose s)) := by
  rw [CodeSpan.findAll, CodeSpan.findAll, pieces_prose, finds_map_piece,
    List.forall₂_map_right_iff, List.forall₂_same]
  exact fun span _ => span.trim_cases

end Cleanup

end Tidymark
