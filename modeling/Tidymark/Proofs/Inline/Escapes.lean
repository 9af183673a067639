import Tidymark.Proofs.Inline.Emphases
import Tidymark.Proofs.Inline.Regions
import Tidymark.Reflow.Token

/-!
# Escaped underscores

A character is escaped if an odd number of backslashes stands in front of it.
Dropped blanks neither hide a backslash nor bring one to an underscore.  But
an end of emphasis may be escaped: then an escaped asterisk takes the place of
an escaped underscore.
-/

namespace Tidymark

open Token (endsEscaped)

namespace Text

/-- How often a character is escaped in a text that stands behind `front`. -/
def escapedFrom (c : Char) (front : Text) : Text → Nat
  | [] => 0
  | d :: s => (if d = c ∧ endsEscaped front then 1 else 0) + escapedFrom c (front ++ [d]) s

/-- How often a character stands in a text behind an odd number of backslashes. -/
def escaped (c : Char) (s : Text) : Nat := escapedFrom c [] s

variable {k : Reach} {c p : Char} {front front' s t : Text}

theorem endsEscaped_concat (s : Text) (c : Char) :
    endsEscaped (s ++ [c]) = (c == '\\' && !endsEscaped s) := by
  rw [endsEscaped, endsEscaped, List.reverse_append, List.reverse_singleton, List.singleton_append,
    runLength]
  by_cases hc : c = '\\'
  · rw [if_pos hc, hc, Bool.eq_iff_iff]
    simp
    omega
  · simp [hc]

theorem endsEscaped_concat_of_ne (s : Text) {c : Char} (hc : c ≠ '\\') :
    endsEscaped (s ++ [c]) = false := by
  rw [endsEscaped_concat, beq_eq_false_iff_ne.mpr hc, Bool.false_and]

theorem endsEscaped_append_congr (h : endsEscaped front = endsEscaped front') (s : Text) :
    endsEscaped (front ++ s) = endsEscaped (front' ++ s) := by
  induction s generalizing front front' with
  | nil => rwa [List.append_nil, List.append_nil]
  | cons d s ih =>
      rw [List.append_cons, List.append_cons front']
      exact ih (by rw [endsEscaped_concat, endsEscaped_concat, h])

theorem escapedFrom_congr (c : Char) (h : endsEscaped front = endsEscaped front') (s : Text) :
    escapedFrom c front s = escapedFrom c front' s := by
  induction s generalizing front front' with
  | nil => rfl
  | cons d s ih => rw [escapedFrom, escapedFrom, h, ih (endsEscaped_append_congr h [d])]

theorem escapedFrom_append (c : Char) (front s t : Text) :
    escapedFrom c front (s ++ t) = escapedFrom c front s + escapedFrom c (front ++ s) t := by
  induction s generalizing front with
  | nil => rw [List.nil_append, escapedFrom, Nat.zero_add, List.append_nil]
  | cons d s ih =>
      rw [List.cons_append, escapedFrom, escapedFrom, ih, List.append_assoc, Nat.add_assoc]
      rfl

theorem escapedFrom_enclosed {mark : Char} (hmark : mark ≠ '\\') (c : Char)
    (front body rest : Text) :
    escapedFrom c front (mark :: body ++ [mark] ++ rest) =
      (if mark = c then (endsEscaped front).toNat + (endsEscaped body).toNat else 0) +
        (escapedFrom c [] body + escapedFrom c [] rest) := by
  have hnone (u : Text) : endsEscaped (u ++ [mark]) = endsEscaped [] :=
    endsEscaped_concat_of_ne u hmark
  have hbody : endsEscaped (front ++ [mark] ++ body) = endsEscaped body :=
    endsEscaped_append_congr (hnone front) body
  rw [List.append_assoc, List.cons_append, escapedFrom, escapedFrom_append,
    escapedFrom_congr c (hnone front), List.singleton_append, escapedFrom, hbody,
    escapedFrom_congr c (hnone _)]
  by_cases hc : mark = c
  · cases hfront : endsEscaped front <;> cases hends : endsEscaped body <;> simp [hc] <;> omega
  · simp [hc]

/-- Trimming labels keeps how often a character is escaped, closing brackets apart. -/
theorem Tightened.escapedFrom_eq (h : Tightened .labels p s t) (hc : isBlank c = false)
    (hclosing : c ≠ ']') (hp : p = '[' → endsEscaped front' = false)
    (hfront : endsEscaped front = endsEscaped front' ∨ t.head? = some ']') :
    escapedFrom c front s = escapedFrom c front' t := by
  induction h generalizing front front' with
  | nil => rfl
  | @char p x y s t hxy h ih =>
      cases hxy.eq_of_labels
      have hopening : x = '[' → endsEscaped (front' ++ [x]) = false := by
        rintro rfl
        exact endsEscaped_concat_of_ne front' (by decide)
      rw [escapedFrom, escapedFrom]
      rcases hfront with hfront | hhead
      · rw [hfront, ih hopening (.inl (endsEscaped_append_congr hfront [x]))]
      · -- A blank in front of a closing bracket may have been escaped.
        cases hhead
        have hsame : endsEscaped (front ++ [']']) = endsEscaped (front' ++ [']']) := by
          rw [endsEscaped_concat_of_ne _ (by decide), endsEscaped_concat_of_ne _ (by decide)]
        rw [if_neg fun h => hclosing h.1.symm, if_neg fun h => hclosing h.1.symm,
          ih hopening (.inl hsame)]
  | @drop p b y s t hb hseam h ih =>
      have hbc : b ≠ c := by
        rintro rfl
        rw [hc] at hb
        cases hb
      have hblank : endsEscaped (front ++ [b]) = false := by
        refine endsEscaped_concat_of_ne front ?_
        rintro rfl
        cases hb
      rw [escapedFrom, if_neg fun h => hbc h.1, Nat.zero_add]
      cases hseam with
      | opening => exact ih hp (.inl (hblank.trans (hp rfl).symm))
      | closing => exact ih hp (.inr rfl)

end Text

namespace Emphasis

open Text (escapedFrom)

/-- How many ends of emphasis are escaped: its beginning by what stands in front, its end by what
is between. -/
def escapedEnds (es : List Emphasis) : Nat :=
  es.countP (endsEscaped ·.front) + es.countP (endsEscaped ·.body)

theorem escapedEnds_cons (e : Emphasis) (es : List Emphasis) :
    escapedEnds (e :: es) =
      (endsEscaped e.front).toNat + (endsEscaped e.body).toNat + escapedEnds es := by
  have htoNat (b : Bool) : b.toNat = if b = true then 1 else 0 := by cases b <;> rfl
  rw [escapedEnds, escapedEnds, List.countP_cons, List.countP_cons, htoNat, htoNat]
  omega

/-- Each escaped end turns from an underscore into an asterisk. -/
theorem escapedFrom_starred {front front' : Text} (h : endsEscaped front = endsEscaped front')
    (ps : List (Piece Text)) :
    escapedFrom '_' front' (Piece.textOf starred ps) + escapedEnds (behind front ps) =
        escapedFrom '_' front (Piece.textOf lined ps) ∧
      escapedFrom '*' front' (Piece.textOf starred ps) =
        escapedFrom '*' front (Piece.textOf lined ps) +
          escapedEnds (behind front ps) := by
  induction ps generalizing front front' with
  | nil => exact ⟨rfl, rfl⟩
  | cons p ps ih =>
      cases p with
      | plain s =>
          obtain ⟨hline, hstar⟩ := ih (Text.endsEscaped_append_congr h s)
          rw [Piece.textOf, Piece.textOf, Piece.text, Piece.text, behind,
            Text.escapedFrom_append, Text.escapedFrom_append, Text.escapedFrom_append,
            Text.escapedFrom_append, Text.escapedFrom_congr '_' h s,
            Text.escapedFrom_congr '*' h s, ← hline, hstar]
          constructor <;> omega
      | found body =>
          have hlined : endsEscaped (front ++ lined body) = endsEscaped [] := by
            rw [lined, ← List.append_assoc, Text.endsEscaped_concat_of_ne _ (by decide)]
            rfl
          obtain ⟨hline, hstar⟩ := ih hlined
          rw [Text.escapedFrom_congr _ hlined] at hline hstar
          rw [Piece.textOf, Piece.textOf, Piece.text, Piece.text, behind, lined, starred,
            Text.escapedFrom_enclosed (by decide), Text.escapedFrom_enclosed (by decide),
            Text.escapedFrom_enclosed (by decide), Text.escapedFrom_enclosed (by decide)]
          simp only [escapedEnds_cons, if_true, Char.reduceEq, if_false]
          rw [lined] at hline hstar
          rw [h]
          constructor <;> omega

end Emphasis

/-- Without code, cleanup loses exactly the escaped underscores that emphasis outside guarded
stretches begins or ends with, and makes escaped asterisks of them. -/
theorem escaped_cleanup {s : Text} (hticks : backtick ∉ s)
    (hfences : ∀ line ∈ Text.endedLines s, FenceRun.ofLine? line = none) :
    let lost := Emphasis.escapedEnds (Emphasis.findAll (PaddedLabel.trimAll s))
    (cleanup s).escaped '_' + lost = s.escaped '_' ∧
      (cleanup s).escaped '*' = s.escaped '*' + lost := by
  intro lost
  have htrimmed (c : Char) (hc : isBlank c = false) (hclosing : c ≠ ']') :
      s.escaped c = (PaddedLabel.trimAll s).escaped c :=
    (PaddedLabel.tightened_trimAll s ' ').escapedFrom_eq hc hclosing (fun _ => rfl) (.inl rfl)
  have hfront : endsEscaped [] = endsEscaped [] := rfl
  have hstarred := Emphasis.escapedFrom_starred hfront
    (Emphasis.unguarded (PaddedLabel.trimAll s))
  rw [← Emphasis.stars_eq, ← Cleanup.plain_eq, ← Cleanup.cleanup_eq_plain hticks hfences,
    Emphasis.textOf_unguarded] at hstarred
  rw [htrimmed '_' rfl (by decide), htrimmed '*' rfl (by decide)]
  exact hstarred

/-- One escaped underscore is kept, and one at the end of emphasis is not. -/
theorem escaped_cleanup_word :
    let s : Text := "a\\_b _c\\_ [ d\\ ](_e_)".toList
    let lost := Emphasis.escapedEnds (Emphasis.findAll (PaddedLabel.trimAll s))
    backtick ∉ s ∧ (∀ line ∈ Text.endedLines s, FenceRun.ofLine? line = none) ∧
      s.escaped '_' = 2 ∧ lost = 1 ∧
      (cleanup s).escaped '_' + lost = s.escaped '_' ∧
      (cleanup s).escaped '*' = s.escaped '*' + lost := by
  intro s lost
  have hticks : backtick ∉ s := by decide +kernel
  have hfences : ∀ line ∈ Text.endedLines s, FenceRun.ofLine? line = none := by decide +kernel
  exact ⟨hticks, hfences, by decide +kernel, by decide +kernel, escaped_cleanup hticks hfences⟩

/-- Escaped underscores are not always kept: emphasis may begin with one. -/
theorem escaped_underscores_not_only_kept :
    ¬∀ s : Text, backtick ∉ s →
      (∀ line ∈ Text.endedLines s, FenceRun.ofLine? line = none) →
      (cleanup s).escaped '_' = s.escaped '_' := by
  intro h
  have hkept := h "\\_a_".toList (by decide) (by decide +kernel)
  revert hkept
  decide +kernel

end Tidymark
