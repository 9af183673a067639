import Tidymark.Proofs.Inline.Links
import Tidymark.Proofs.Text.Correspondence

/-!
# Where links stand

Links are searched from left to right, and what stands in one is not searched
again.  A text in the form of a link construct can go unfound, but only if the
search is inside another link where it starts.
-/

namespace Tidymark

namespace Span

structure Holds (span : Span) (offset : Nat) : Prop where
  start_le : span.start ≤ offset
  lt_stop : offset < span.stop

structure Overlaps (span other : Span) : Prop where
  start_lt : span.start < other.stop
  lt_stop : other.start < span.stop

end Span

namespace Piece

variable {α : Type} {source : α → Text}

theorem spans_consPlain (offset : Nat) (s : Text) (ps : List (Piece α)) :
    spans source offset (consPlain s ps) = spans source (offset + Text.byteSize s) ps := by
  cases ps with
  | nil => rfl
  | cons p ps =>
      cases p with
      | plain t => rw [consPlain, spans, spans, Text.byteSize_append, Nat.add_assoc]
      | found a => rfl

end Piece

namespace Pattern

variable {α : Type} (p : Pattern α)

/-- Where something can be read off, the search finds it, or is inside another find. -/
theorem exists_range_of_read (offset : Nat) (front : Text) {t rest : Text} {a : α}
    (h : p.read t = some (a, rest)) :
    ∃ range ∈ Piece.spans p.source offset (p.pieces (front ++ t)),
      range.Holds (offset + Text.byteSize front) := by
  generalize hs : front ++ t = s
  induction s using Pattern.pieces.induct (p := p) generalizing front offset with
  | case1 =>
      obtain ⟨-, rfl⟩ := List.append_eq_nil_iff.mp hs
      exact absurd (p.append_of_read h) (by simp [p.source_ne_nil h])
  | case2 c s b behind hread ih =>
      have hsplit := hs.trans (p.append_of_read hread)
      rw [pieces_of_read hread, Piece.spans]
      rcases append_eq_append_cases hsplit.symm with ⟨x, rfl, rfl⟩ | ⟨x, hx, hsource, -⟩
      · obtain ⟨range, hrange, hholds⟩ := ih (offset + Text.byteSize (p.source b)) x rfl
        rw [Nat.add_assoc, ← Text.byteSize_append] at hholds
        exact ⟨range, List.mem_cons_of_mem _ hrange, hholds⟩
      · have hbytes := Text.byteSize_pos hx
        refine ⟨_, List.mem_cons_self, Nat.le_add_right _ _, ?_⟩
        simp only [hsource, Text.byteSize_append]
        omega
  | case3 c s hread ih =>
      cases front with
      | nil =>
          rw [List.nil_append] at hs
          rw [hs, hread] at h
          cases h
      | cons d front =>
          rw [List.cons_append, List.cons.injEq] at hs
          obtain ⟨rfl, hs⟩ := hs
          obtain ⟨range, hrange, hholds⟩ := ih (offset + Text.byteSize [d]) front hs
          rw [Nat.add_assoc, ← Text.byteSize_append] at hholds
          rw [pieces_cons hread, Piece.spans_consPlain]
          exact ⟨range, hrange, hholds⟩

end Pattern

namespace Link

/-- The form of a link construct: a label without a closing bracket stands in brackets, right
behind it a destination without a closing parenthesis in parentheses, and an exclamation mark may
stand in front. -/
def HasForm (part : Text) : Prop :=
  ∃ mark label destination, (mark = [] ∨ mark = ['!']) ∧ ']' ∉ label ∧ ')' ∉ destination ∧
    part = mark ++ '[' :: (label ++ ']' :: '(' :: (destination ++ [')']))

/-- What has the form of a link construct is read as one, whatever stands behind it. -/
theorem HasForm.exists_read? {part : Text} (h : HasForm part) :
    ∃ l : Link, l.source = part ∧ ∀ rest, read? (part ++ rest) = some (l, rest) := by
  obtain ⟨mark, label, destination, hmark, hlabel, hdestination, rfl⟩ := h
  obtain ⟨image, hopening⟩ : ∃ image, opening image = mark ++ ['['] := by
    rcases hmark with rfl | rfl
    · exact ⟨false, rfl⟩
    · exact ⟨true, rfl⟩
  have hsource : source ⟨image, label, destination⟩ =
      mark ++ '[' :: (label ++ ']' :: '(' :: (destination ++ [')'])) := by
    rw [source_eq, hopening, List.append_assoc, List.singleton_append]
  refine ⟨⟨image, label, destination⟩, hsource, fun rest => ?_⟩
  rw [← hsource, read?_eq_some_iff]
  exact ⟨by simp [source_eq], hlabel, hdestination⟩

theorem hasForm_of_read? {s rest : Text} {l : Link} (h : read? s = some (l, rest)) :
    HasForm l.source := by
  obtain ⟨-, hlabel, hdestination⟩ := read?_eq_some_iff.mp h
  refine ⟨if l.image then ['!'] else [], l.label, l.destination, ?_, hlabel, hdestination, ?_⟩
  · cases l.image
    · exact .inl rfl
    · exact .inr rfl
  · simp [source]

theorem HasForm.ne_nil {part : Text} (h : HasForm part) : part ≠ [] := by
  obtain ⟨mark, label, destination, -, -, -, rfl⟩ := h
  simp

theorem exists_range_of_hasForm (front : Text) {part : Text} (h : HasForm part) (rear : Text) :
    ∃ range ∈ pattern.ranges (front ++ part ++ rear), range.Holds (Text.byteSize front) := by
  obtain ⟨l, -, hread⟩ := h.exists_read?
  have hfound := pattern.exists_range_of_read 0 front (hread rear)
  rwa [Nat.zero_add, ← List.append_assoc] at hfound

theorem hasForm_of_mem_findAll {s : Text} {l : Link} (h : l ∈ pattern.findAll s) :
    HasForm l.source ∧ l.source <:+: s := by
  obtain ⟨front, t, rest, rfl, hread⟩ := pattern.exists_read_of_mem_findAll h
  have hsplit : t = l.source ++ rest := source_of_read? hread
  exact ⟨hasForm_of_read? hread, front, rest, by simp [hsplit]⟩

/-- Each range cuts out a link construct. -/
theorem exists_hasForm_of_mem_ranges (s : Text) :
    ∀ range ∈ pattern.ranges s, ∃ part, range.Cuts s part ∧ HasForm part := by
  have hforms : ∀ l ∈ pattern.findAll s, HasForm l.source :=
    fun l hl => (hasForm_of_mem_findAll hl).1
  refine forall_mem_left_of_forall₂ ?_ (pattern.cuts_ranges s) hforms
  intro range l hcuts hform
  exact ⟨l.source, hcuts, hform⟩

/-- The ranges of links are disjoint and in order, and each cuts out a text in the form of a link
construct.  Every part of that form overlaps one of them, and a link is found exactly if there is
such a part. -/
theorem ranges_overlap_constructs (s : Text) :
    (pattern.ranges s).Pairwise (fun range next => range.stop ≤ next.start) ∧
      (∀ range ∈ pattern.ranges s, ∃ part, range.Cuts s part ∧ HasForm part) ∧
      (∀ (place : Span) (part : Text), place.Cuts s part → HasForm part →
        ∃ range ∈ pattern.ranges s, range.Overlaps place) ∧
      (pattern.occursIn s = true ↔ ∃ part, part <:+: s ∧ HasForm part) := by
  refine ⟨(Piece.pairwise_spans 0 (pattern.pieces s)).1,
    exists_hasForm_of_mem_ranges s, ?_, ?_⟩
  · rintro place part ⟨front, rear, rfl, rfl⟩ hform
    obtain ⟨range, hrange, hholds⟩ := exists_range_of_hasForm front hform rear
    refine ⟨range, hrange, ⟨?_, hholds.lt_stop⟩⟩
    have hstart := hholds.start_le
    have hbytes := Text.byteSize_pos hform.ne_nil
    simp only [Text.byteSize_append]
    omega
  · constructor
    · intro hoccurs
      have hfound : pattern.findAll s ≠ [] := by
        simpa [Pattern.occursIn] using hoccurs
      obtain ⟨l, hl⟩ := List.exists_mem_of_ne_nil _ hfound
      obtain ⟨hform, hinfix⟩ := hasForm_of_mem_findAll hl
      exact ⟨l.source, hinfix, hform⟩
    · rintro ⟨part, ⟨front, rear, rfl⟩, hform⟩
      obtain ⟨l, -, hread⟩ := hform.exists_read?
      by_contra hnone
      have hfree : pattern.occursIn (front ++ (part ++ rear)) = false := by
        simpa using hnone
      cases (pattern.read_eq_none_of_occursIn hfree).symm.trans (hread rear)

example : pattern.ranges "a [b [c](d\n e) ![](f [g](h)) [i] (j)".toList = [⟨2, 14⟩, ⟨15, 27⟩] := by
  decide +kernel

end Link

end Tidymark
