import Tidymark.Proofs.Inline.Links
import Tidymark.Proofs.Reflow.Content
import Mathlib.Logic.Relation

/-!
# The repair of broken links

A round of repairs makes the labels of the broken links it finds one line.  A
broken link in the destination of another is not found before the next round;
but each round leaves fewer line feeds, so there is a last one, and it leaves
no broken link.  What comes out is the text with labels rejoined, one after the
other, and all else as it was.
-/

namespace Tidymark

namespace BrokenLink

/-! ## What is broken -/

/-- A link that is found broken: its label spans lines. -/
structure IsBroken (link : Link) : Prop where
  image : link.image = false
  breaks : '\n' ∈ link.label
  label : ']' ∉ link.label
  destination : ')' ∉ link.destination

theorem read?_eq_some_iff {s rest : Text} {link : Link} :
    read? s = some (link, rest) ↔ IsBroken link ∧ s = link.source ++ rest := by
  constructor
  · intro h
    refine ⟨?_, source_of_read? h⟩
    unfold read? at h
    split at h
    · split at h
      · next hread =>
          split at h
          · next hbreak =>
              cases h
              obtain ⟨-, himage, hlabel, hdestination⟩ :=
                Link.readAfterBracket?_eq_some_iff.mp hread
              exact ⟨himage, by simpa using hbreak, hlabel, hdestination⟩
          · cases h
      · cases h
    · cases h
  · rintro ⟨hbroken, rfl⟩
    have hread : Link.readAfterBracket? false
        (link.label ++ ']' :: '(' :: (link.destination ++ ')' :: rest)) = some (link, rest) :=
      Link.readAfterBracket?_eq_some_iff.mpr
        ⟨rfl, hbroken.image, hbroken.label, hbroken.destination⟩
    have hsource : link.source ++ rest =
        '[' :: (link.label ++ ']' :: '(' :: (link.destination ++ ')' :: rest)) := by
      simp [Link.source_eq, hbroken.image, Link.opening]
    simp [hsource, read?, hread, hbroken.breaks]

theorem isBroken_of_mem_findAll {s : Text} {link : Link} (h : link ∈ pattern.findAll s) :
    IsBroken link := by
  obtain ⟨_, t, rest, _, hread⟩ := pattern.exists_read_of_mem_findAll h
  exact (read?_eq_some_iff.mp hread).1

theorem occursIn_eq_false_iff {s : Text} : pattern.occursIn s = false ↔
    ∀ front link rest, s = front ++ link.source ++ rest → ¬IsBroken link := by
  constructor
  · rintro h front link rest rfl hbroken
    rw [List.append_assoc] at h
    have hread : pattern.read (link.source ++ rest) = some (link, rest) :=
      read?_eq_some_iff.mpr ⟨hbroken, rfl⟩
    rw [pattern.read_eq_none_of_occursIn h] at hread
    cases hread
  · intro h
    rw [pattern.occursIn_eq_false_iff, List.eq_nil_iff_forall_not_mem]
    intro link hlink
    obtain ⟨front, t, rest, rfl, hread⟩ := pattern.exists_read_of_mem_findAll hlink
    obtain ⟨hbroken, rfl⟩ := read?_eq_some_iff.mp hread
    exact h front link rest (List.append_assoc _ _ _).symm hbroken

/-- Where no link is broken, no label spans lines, that of an image neither. -/
theorem break_not_mem_label_of_eq {s front rest : Text} {link : Link}
    (h : pattern.occursIn s = false) (hs : s = front ++ link.source ++ rest)
    (hlabel : ']' ∉ link.label) (hdestination : ')' ∉ link.destination) : '\n' ∉ link.label := by
  intro hbreak
  rw [occursIn_eq_false_iff] at h
  cases himage : link.image with
  | false => exact h front link rest hs ⟨himage, hbreak, hlabel, hdestination⟩
  | true =>
      refine h (front ++ ['!']) ⟨false, link.label, link.destination⟩ rest ?_
        ⟨rfl, hbreak, hlabel, hdestination⟩
      rw [hs]
      simp [Link.source, himage]

theorem break_not_mem_label {s : Text} (h : pattern.occursIn s = false) :
    ∀ link ∈ Link.pattern.findAll s, '\n' ∉ link.label := by
  intro link hlink
  obtain ⟨front, t, rest, rfl, hread⟩ := Link.pattern.exists_read_of_mem_findAll hlink
  obtain ⟨-, hlabel, hdestination⟩ := Link.read?_eq_some_iff.mp hread
  have hs : front ++ t = front ++ link.source ++ rest := by
    rw [List.append_assoc, Link.source_of_read? hread]
  exact break_not_mem_label_of_eq h hs hlabel hdestination

theorem occursIn_of_no_link {s : Text} (h : Link.pattern.occursIn s = false) :
    pattern.occursIn s = false := by
  refine Pattern.occursIn_eq_false_of_read (fun t ht => ?_) h
  rw [Option.eq_none_iff_forall_ne_some]
  rintro ⟨link, rest⟩ hread
  obtain ⟨hbroken, rfl⟩ := read?_eq_some_iff.mp hread
  have hlink : Link.pattern.read (link.source ++ rest) = some (link, rest) :=
    Link.read?_eq_some_iff.mpr ⟨by simp [Link.source_eq], hbroken.label, hbroken.destination⟩
  rw [ht] at hlink
  cases hlink

/-! ## One round -/

theorem break_not_mem_unbreak (s : Text) : '\n' ∉ unbreak s := by
  fun_induction unbreak s with
  | case1 => exact List.not_mem_nil
  | case2 c r hc run ih =>
      rw [List.mem_append, not_or]
      refine ⟨?_, ih⟩
      split
      · decide
      · next hrun => simpa using hrun
  | case3 c r hc ih =>
      rw [List.mem_cons, not_or]
      refine ⟨?_, ih⟩
      rintro rfl
      exact hc rfl

theorem count_mend_lt {link : Link} (h : '\n' ∈ link.label) :
    (mend link).source.count '\n' < link.source.count '\n' := by
  have hbefore : 0 < link.label.count '\n' := List.count_pos_iff.mpr h
  have hafter : (unbreak link.label).count '\n' = 0 :=
    List.count_eq_zero.mpr (break_not_mem_unbreak link.label)
  simp only [Link.source_eq, mend, List.count_append, hafter]
  omega

/-- Each find takes a line feed at least out of the text when it is mended. -/
theorem count_mapText_mend_le {ps : List (Piece Link)}
    (h : ∀ link ∈ Piece.finds ps, '\n' ∈ link.label) :
    (Piece.mapText id (fun link => (mend link).source) ps).count '\n' + (Piece.finds ps).length ≤
      (Piece.textOf Link.source ps).count '\n' := by
  induction ps with
  | nil => exact Nat.le_refl _
  | cons p ps ih =>
      cases p with
      | plain s =>
          have hrest := ih h
          rw [Piece.mapText, Piece.textOf, List.count_append, List.count_append]
          simp only [id, Piece.finds, Piece.text]
          omega
      | found link =>
          rw [Piece.finds, List.forall_mem_cons] at h
          have hrest := ih h.2
          have hlink := count_mend_lt h.1
          rw [Piece.mapText, Piece.textOf, List.count_append, List.count_append]
          simp only [Piece.finds, Piece.text, List.length_cons]
          omega

theorem count_mendAll_lt {s : Text} (h : pattern.occursIn s = true) :
    (mendAll s).count '\n' < s.count '\n' := by
  have hpos : 0 < (pattern.findAll s).length := by
    rw [List.length_pos_iff]
    intro hnil
    rw [pattern.occursIn_eq_false_iff.mpr hnil] at h
    cases h
  have hcount := count_mapText_mend_le fun link hlink =>
    (isBroken_of_mem_findAll (s := s) hlink).breaks
  have htext : Piece.textOf Link.source (pattern.pieces s) = s := pattern.textOf_pieces s
  rw [htext] at hcount
  exact Nat.lt_of_lt_of_le (Nat.lt_add_of_pos_right hpos) hcount

/-- The label of one broken link is made one line, and all else is as it was. -/
def MendsOne (s t : Text) : Prop :=
  ∃ front link rest, IsBroken link ∧ s = front ++ link.source ++ rest ∧
    t = front ++ (mend link).source ++ rest

/-- Broken links are mended one after the other. -/
def Mends : Text → Text → Prop := Relation.ReflTransGen MendsOne

/-- The finds of a round are mended from left to right. -/
theorem mends_mapText (front : Text) {ps : List (Piece Link)}
    (h : ∀ link ∈ Piece.finds ps, IsBroken link) :
    Mends (front ++ Piece.textOf Link.source ps)
      (front ++ Piece.mapText id (fun link => (mend link).source) ps) := by
  induction ps generalizing front with
  | nil => exact .refl
  | cons p ps ih =>
      cases p with
      | plain s =>
          have hrest := ih (front ++ s) h
          rwa [List.append_assoc, List.append_assoc] at hrest
      | found link =>
          rw [Piece.finds, List.forall_mem_cons] at h
          have hrest := ih (front ++ (mend link).source) h.2
          have hone : MendsOne (front ++ (link.source ++ Piece.textOf Link.source ps))
              (front ++ (mend link).source ++ Piece.textOf Link.source ps) :=
            ⟨front, link, _, h.1, (List.append_assoc _ _ _).symm, rfl⟩
          rw [List.append_assoc _ _ (Piece.mapText _ _ _)] at hrest
          exact .head hone hrest

theorem mends_mendAll (s : Text) : Mends s (mendAll s) := by
  have htext : Piece.textOf Link.source (pattern.pieces s) = s := pattern.textOf_pieces s
  have hmends := mends_mapText [] fun link hlink => isBroken_of_mem_findAll (s := s) hlink
  rw [List.nil_append, List.nil_append, htext] at hmends
  exact hmends

/-! ## The rounds -/

/-- Rounds of repairs for as long as a link is broken, and how many there are. -/
inductive Rounds : Nat → Text → Text → Prop where
  | done {s : Text} (h : pattern.occursIn s = false) : Rounds 0 s s
  | round {n : Nat} {s t : Text} (h : pattern.occursIn s = true) (hrest : Rounds n (mendAll s) t) :
      Rounds (n + 1) s t

namespace Rounds

variable {n : Nat} {s t : Text}

theorem occursIn_eq_false (h : Rounds n s t) : pattern.occursIn t = false := by
  induction h with
  | done h => exact h
  | round _ _ ih => exact ih

theorem mends (h : Rounds n s t) : Mends s t := by
  induction h with
  | done => exact .refl
  | round _ _ ih => exact (mends_mendAll _).trans ih

/-- Rounds are as many as line feeds at most, since each takes one away. -/
theorem add_count_le (h : Rounds n s t) : n + t.count '\n' ≤ s.count '\n' := by
  induction h with
  | done => exact Nat.le_of_eq (Nat.zero_add _)
  | round h _ ih =>
      have hround := count_mendAll_lt h
      omega

end Rounds

/-- There are enough rounds. -/
theorem exists_rounds_repairRounds {bound : Nat} {s : Text} (h : s.count '\n' ≤ bound) :
    ∃ n, Rounds n s (repairRounds bound s) := by
  induction bound generalizing s with
  | zero =>
      refine ⟨0, .done ?_⟩
      rw [← Bool.not_eq_true]
      intro hoccurs
      exact Nat.not_lt_zero _ ((count_mendAll_lt hoccurs).trans_le h)
  | succ bound ih =>
      rw [repairRounds]
      split
      · next hoccurs =>
          obtain ⟨n, hn⟩ := ih (Nat.le_of_lt_succ ((count_mendAll_lt hoccurs).trans_le h))
          exact ⟨n + 1, .round hoccurs hn⟩
      · next hnone => exact ⟨0, .done (by simpa using hnone)⟩

theorem exists_rounds_repair (s : Text) : ∃ n, Rounds n s (repair s) :=
  exists_rounds_repairRounds (Nat.le_refl _)

/-- A repaired text has no broken links. -/
theorem occursIn_repair (s : Text) : pattern.occursIn (repair s) = false := by
  obtain ⟨n, hn⟩ := exists_rounds_repair s
  exact hn.occursIn_eq_false

theorem repair_eq_self {s : Text} (h : pattern.occursIn s = false) : repair s = s := by
  rw [repair]
  cases s.count '\n' with
  | zero => rfl
  | succ n => rw [repairRounds, h, if_neg Bool.false_ne_true]

/-- Rounds of repairs end, since each that finds a broken link leaves fewer line feeds.  They only
rejoin labels, one after the other, and keep the words; in the end no label spans lines, so a
further repair changes nothing. -/
theorem repair_rejoins_labels (s : Text) :
    (pattern.occursIn s = true → (mendAll s).count '\n' < s.count '\n') ∧
      (∃ n ≤ s.count '\n', Rounds n s (repair s)) ∧ Mends s (repair s) ∧
      (∀ front (link : Link) rest, repair s = front ++ link.source ++ rest → ']' ∉ link.label →
        ')' ∉ link.destination → '\n' ∉ link.label) ∧
      Text.words (repair s) = Text.words s ∧ repair (repair s) = repair s := by
  have hnone := occursIn_repair s
  obtain ⟨n, hn⟩ := exists_rounds_repair s
  refine ⟨count_mendAll_lt, ⟨n, ?_, hn⟩, hn.mends, ?_, words_repair s, repair_eq_self hnone⟩
  · exact (Nat.le_add_right _ _).trans hn.add_count_le
  · intro front link rest hrepair hlabel hdestination
    exact break_not_mem_label_of_eq hnone hrepair hlabel hdestination

/-- A broken link in a destination is found once the one around it is mended. -/
example : let s : Text := "[a \n b](c [d\n\ne](f)".toList
    mendAll s = "[a b](c [d\n\ne](f)".toList ∧ repair s = "[a b](c [d e](f)".toList := by
  decide +kernel

end BrokenLink

end Tidymark
