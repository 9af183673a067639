import Tidymark.Proofs.Inline.Cleanup
import Tidymark.Proofs.Text.EndedLines
import Tidymark.Proofs.Text.Runs

/-!
# Where blanks may go

Cleanup drops blanks only between two characters that it keeps and that are
not blank: behind an opening bracket, in front of a closing one, and between
the backticks of a code span and what they hold.  So nothing comes together
that could make a backtick run, a code fence or a link out of its parts.
-/

namespace Tidymark

namespace Text

/-- How far cleanup goes: it trims labels, makes asterisks of underscores too, or trims code spans
as well. -/
inductive Reach where
  | labels
  | plain
  | prose
deriving DecidableEq

/-- A character as it stands in the text, or an asterisk for an underscore. -/
inductive Starred : Reach → Char → Char → Prop where
  | same {k : Reach} (c : Char) : Starred k c c
  | star {k : Reach} (hk : k ≠ .labels) : Starred k '_' '*'

/-- Two characters between which blanks are dropped. -/
inductive Seam : Reach → Char → Char → Prop where
  | opening {k : Reach} {y : Char} (hy : isBlank y = false) : Seam k '[' y
  | closing {k : Reach} {x : Char} (hx : isBlank x = false) : Seam k x ']'
  | afterTicks {y : Char} (hy : isBlank y = false) (hne : y ≠ backtick) : Seam .prose backtick y
  | beforeTicks {x : Char} (hx : isBlank x = false) (hne : x ≠ backtick) : Seam .prose x backtick

/-- A text with some underscores made asterisks and without some blanks at seams.  `p` is the
character that is kept in front of it. -/
inductive Tightened (k : Reach) : Char → Text → Text → Prop where
  | nil {p : Char} : Tightened k p [] []
  | char {p x y : Char} {s t : Text} (hxy : Starred k x y) (h : Tightened k y s t) :
      Tightened k p (x :: s) (y :: t)
  | drop {p b y : Char} {s t : Text} (hb : isBlank b = true) (hseam : Seam k p y)
      (h : Tightened k p s (y :: t)) : Tightened k p (b :: s) (y :: t)

variable {k : Reach} {p q x y : Char} {s t u : Text}

namespace Starred

theorem isBlank_eq (h : Starred k x y) : isBlank x = isBlank y := by
  cases h with
  | same => rfl
  | star => rfl

theorem eq_iff (h : Starred k x y) {c : Char} (hline : c ≠ '_') (hstar : c ≠ '*') :
    x = c ↔ y = c := by
  cases h with
  | same => exact Iff.rfl
  | star => exact ⟨fun hc => absurd hc.symm hline, fun hc => absurd hc.symm hstar⟩

theorem trans {z : Char} (h : Starred k x y) (h' : Starred k y z) : Starred k x z := by
  cases h with
  | same => exact h'
  | star hk =>
      cases h' with
      | same => exact .star hk

theorem to_prose (h : Starred k x y) : Starred .prose x y := by
  cases h with
  | same => exact .same _
  | star => exact .star (by decide)

theorem eq_of_ne_star (h : Starred k x y) (hy : y ≠ '*') : x = y := by
  cases h with
  | same => rfl
  | star => exact absurd rfl hy

theorem eq_of_labels (h : Starred .labels x y) : x = y := by
  cases h with
  | same => rfl
  | star hk => exact absurd rfl hk

theorem tidied_cons (h : Starred k x y) (hst : Tidied s t) : Tidied (x :: s) (y :: t) := by
  cases h with
  | same => exact .char x hst
  | star => exact .star hst

theorem forall₂_refl (s : Text) : List.Forall₂ (Starred k) s s :=
  List.forall₂_same.mpr fun c _ => .same c

end Starred

namespace Seam

theorem starred {p' y' : Char} (h : Seam k p y) (hp : Starred k p p') (hy : Starred k y y') :
    Seam k p' y' := by
  have hstar : isBlank '*' = false := rfl
  cases h with
  | opening hblank =>
      cases hp
      exact .opening (hy.isBlank_eq ▸ hblank)
  | closing hblank =>
      cases hy
      exact .closing (hp.isBlank_eq ▸ hblank)
  | afterTicks hblank hne =>
      cases hp
      refine .afterTicks (hy.isBlank_eq ▸ hblank) ?_
      rwa [ne_eq, ← hy.eq_iff (by decide) (by decide)]
  | beforeTicks hblank hne =>
      cases hy
      refine .beforeTicks (hp.isBlank_eq ▸ hblank) ?_
      rwa [ne_eq, ← hp.eq_iff (by decide) (by decide)]

theorem to_prose (h : Seam k p y) : Seam .prose p y := by
  cases h with
  | opening hy => exact .opening hy
  | closing hx => exact .closing hx
  | afterTicks hy hne => exact .afterTicks hy hne
  | beforeTicks hx hne => exact .beforeTicks hx hne

theorem plain_of_labels (h : Seam .labels p y) : Seam .plain p y := by
  cases h with
  | opening hy => exact .opening hy
  | closing hx => exact .closing hx

theorem left_not_blank (h : Seam k p y) : isBlank p = false := by
  cases h with
  | opening => rfl
  | closing hx => exact hx
  | afterTicks => rfl
  | beforeTicks hx => exact hx

theorem right_not_blank (h : Seam k p y) : isBlank y = false := by
  cases h with
  | opening hy => exact hy
  | closing => rfl
  | afterTicks hy => exact hy
  | beforeTicks => rfl

/-- No two characters of a code fence stand at a seam. -/
theorem ne_of_fence (h : Seam k p y) (hp : p = backtick ∨ p = '~') : y ≠ p := by
  rintro rfl
  cases h with
  | opening => rcases hp with hp | hp <;> cases hp
  | closing => rcases hp with hp | hp <;> cases hp
  | afterTicks _ hne => exact hne rfl
  | beforeTicks _ hne => exact hne rfl

end Seam

namespace Tightened

theorem refl (p : Char) (s : Text) : Tightened k p s s := by
  induction s generalizing p with
  | nil => exact .nil
  | cons c s ih => exact .char (.same c) (ih c)

theorem of_starred (h : List.Forall₂ (Starred k) s t) (p : Char) : Tightened k p s t := by
  induction h generalizing p with
  | nil => exact .nil
  | cons hxy _ ih => exact .char hxy (ih _)

theorem eq_nil (h : Tightened k p s []) : s = [] := by
  cases h
  rfl

theorem eq_nil_right (h : Tightened k p [] t) : t = [] := by
  cases h
  rfl

theorem append {s' t' : Text} (h : Tightened k p s t)
    (h' : ∀ q, Tightened k q s' t') : Tightened k p (s ++ s') (t ++ t') := by
  induction h with
  | nil => exact h' _
  | char hxy _ ih => exact .char hxy ih
  | drop hb hseam _ ih => exact .drop hb hseam ih

/-- Blanks at a seam. -/
theorem blanks {g : Text} (hg : ∀ b ∈ g, isBlank b = true) (hseam : Seam k p y)
    (h : Tightened k p s (y :: t)) : Tightened k p (g ++ s) (y :: t) := by
  induction g with
  | nil => exact h
  | cons b g ih =>
      rw [List.forall_mem_cons] at hg
      exact .drop hg.1 hseam (ih hg.2)

theorem to_prose (h : Tightened k p s t) : Tightened .prose p s t := by
  induction h with
  | nil => exact .nil
  | char hxy _ ih => exact .char hxy.to_prose ih
  | drop hb hseam _ ih => exact .drop hb hseam.to_prose ih

theorem plain_of_labels (h : Tightened .labels p s t) : Tightened .plain p s t := by
  induction h with
  | nil => exact .nil
  | char hxy _ ih => exact .char (hxy.eq_of_labels ▸ .same _) ih
  | drop hb hseam _ ih => exact .drop hb (.plain_of_labels hseam) ih

theorem trans_starred (h : Tightened k p s t) (hu : List.Forall₂ (Starred k) t u)
    (hpq : Starred k p q) : Tightened k q s u := by
  induction h generalizing q u with
  | nil =>
      cases hu
      exact .nil
  | char hxy _ ih =>
      cases hu with
      | cons hyz hu => exact .char (hxy.trans hyz) (ih hu hyz)
  | drop hb hseam _ ih =>
      have hrest := ih hu hpq
      cases hu with
      | cons hyz hu => exact .drop hb (hseam.starred hpq hyz) hrest

theorem tidied (h : Tightened k p s t) : s.Tidied t := by
  induction h with
  | nil => exact .nil
  | char hxy _ ih => exact hxy.tidied_cons ih
  | drop hb _ _ ih => exact .drop hb ih

theorem keep {a : Text} (ha : a.getLast? = some x) (h : Tightened k x s t) (p : Char) :
    Tightened k p (a ++ s) (a ++ t) := by
  induction a generalizing p with
  | nil => cases ha
  | cons c a ih =>
      cases a with
      | nil =>
          cases ha
          exact .char (.same c) h
      | cons d a =>
          rw [List.getLast?_cons_cons] at ha
          exact .char (.same c) (ih ha c)

/-- A text trimmed between two characters that make seams with its ends. -/
theorem trim {z : Char} {r : Text} (hhead : ∀ c, (Text.trim r).head? = some c → Seam k p c)
    (hlast : ∀ c, (Text.trim r).getLast? = some c → Seam k c z)
    (hempty : Text.trim r = [] → Seam k p z) (h : Tightened k z s t) :
    Tightened k p (r ++ z :: s) (Text.trim r ++ z :: t) := by
  obtain ⟨g, g', hg, hg', hr⟩ := exists_eq_append_trim_append r
  generalize Text.trim r = core at *
  subst hr
  rw [List.append_assoc, List.append_assoc]
  cases core with
  | nil =>
      rw [List.nil_append, List.nil_append]
      exact blanks hg (hempty rfl) (blanks hg' (hempty rfl) (.char (.same z) h))
  | cons c core =>
      obtain ⟨d, hd⟩ : ∃ d, (c :: core).getLast? = some d := ⟨_, List.getLast?_cons⟩
      have hcore : Tightened k d (g' ++ z :: s) (z :: t) :=
        blanks hg' (hlast d hd) (.char (.same z) h)
      exact blanks hg (hhead c rfl) (hcore.keep hd p)

/-! ## The character in front -/

/-- A character that is not blank is kept. -/
theorem exists_of_cons (h : Tightened k p (x :: s) t) (hx : isBlank x = false) :
    ∃ y t', t = y :: t' ∧ Starred k x y ∧ Tightened k y s t' := by
  cases h with
  | char hxy h => exact ⟨_, _, rfl, hxy, h⟩
  | drop hb =>
      rw [hx] at hb
      cases hb

theorem exists_of_cons_right (h : Tightened k p s (y :: t)) :
    ∃ g x s', s = g ++ x :: s' ∧ (∀ b ∈ g, isBlank b = true) ∧ (g ≠ [] → Seam k p y) ∧
      Starred k x y ∧ Tightened k y s' t := by
  generalize hu : y :: t = u at h
  induction h with
  | nil => cases hu
  | @char p x y s t hxy h =>
      cases hu
      exact ⟨[], x, s, rfl, by simp, fun hne => absurd rfl hne, hxy, h⟩
  | drop hb hseam _ ih =>
      obtain ⟨g, x, s', rfl, hg, _, hxy, hrest⟩ := ih hu
      cases hu
      exact ⟨_ :: g, x, s', rfl, List.forall_mem_cons.mpr ⟨hb, hg⟩, fun _ => hseam, hxy, hrest⟩

/-- Where there is no seam nothing is dropped. -/
theorem exists_of_no_seam (h : Tightened k p s (y :: t)) (hseam : ¬Seam k p y) :
    ∃ x s', s = x :: s' ∧ Starred k x y ∧ Tightened k y s' t := by
  obtain ⟨g, x, s, rfl, -, hg, hxy, h⟩ := h.exists_of_cons_right
  have hnil : g = [] := not_imp_comm.mp hg hseam
  exact ⟨x, s, by rw [hnil, List.nil_append], hxy, h⟩

theorem rel_getLast? (h : Tightened k p s t) :
    Option.Rel (Starred k) s.getLast? t.getLast? := by
  induction h with
  | nil => exact .none
  | @char p x y s t hxy _ ih =>
      rw [List.getLast?_cons, List.getLast?_cons]
      generalize s.getLast? = a, t.getLast? = b at ih ⊢
      cases ih with
      | some hlast => exact .some hlast
      | none => exact .some hxy
  | @drop p b y s t _ _ _ ih =>
      rw [List.getLast?_cons] at ih ⊢
      rw [List.getLast?_cons]
      generalize s.getLast? = a at ih ⊢
      cases ih with
      | some hlast => exact .some hlast

theorem ended_iff (h : Tightened k p s t) : Ended s ↔ Ended t := by
  rw [Ended, Ended]
  have hlast := h.rel_getLast?
  generalize s.getLast? = a, t.getLast? = b at hlast ⊢
  cases hlast with
  | some hab => simpa using hab.eq_iff (by decide) (by decide)
  | none => exact Iff.rfl

/-- A tightened text cut in two: so was the text. -/
theorem exists_of_append {a : Text} (h : Tightened k p s (a ++ t)) :
    ∃ s₁ s₂, s = s₁ ++ s₂ ∧ Tightened k p s₁ a ∧ Tightened k (a.getLastD p) s₂ t := by
  induction a generalizing p s with
  | nil => exact ⟨[], s, rfl, .nil, h⟩
  | cons y a ih =>
      obtain ⟨g, x, s, rfl, hg, hseam, hxy, hrest⟩ := h.exists_of_cons_right
      obtain ⟨s₁, s₂, rfl, hfront, hback⟩ := ih hrest
      have hchar : Tightened k p (x :: s₁) (y :: a) := .char hxy hfront
      refine ⟨g ++ x :: s₁, s₂, by simp, ?_, ?_⟩
      · by_cases hne : g = []
        · rwa [hne]
        · exact blanks hg (hseam hne) hchar
      · cases a with
        | nil => exact hback
        | cons z a => exact hback

/-! ## Backticks -/

theorem exists_of_delimiter {n : Nat} (hn : n ≠ 0)
    (h : Tightened k p (CodeSpan.delimiter n ++ s) t) :
    ∃ t', t = CodeSpan.delimiter n ++ t' ∧ Tightened k backtick s t' := by
  induction n generalizing p t with
  | zero => exact absurd rfl hn
  | succ n ih =>
      obtain ⟨y, t, rfl, hy, h⟩ := h.exists_of_cons rfl
      cases hy
      by_cases hzero : n = 0
      · subst hzero
        exact ⟨t, rfl, h⟩
      · obtain ⟨t', rfl, hrest⟩ := ih hzero h
        exact ⟨t', rfl, hrest⟩

theorem head?_eq_backtick_iff (h : Tightened k backtick s t) :
    s.head? = some backtick ↔ t.head? = some backtick := by
  cases h with
  | nil => exact Iff.rfl
  | char hxy =>
      rw [List.head?_cons, List.head?_cons, Option.some.injEq, Option.some.injEq,
        hxy.eq_iff (by decide) (by decide)]
  | drop hb hseam =>
      have hy := hseam.ne_of_fence (.inl rfl)
      have hne : ∀ b, isBlank b = true → b ≠ backtick := by
        rintro b hblank rfl
        cases hblank
      simp [hy, hne _ hb]

theorem runsFrom_eq (h : Tightened k p s t) {held : Nat} (hheld : held ≠ 0 → p = backtick) :
    runsFrom backtick held s = runsFrom backtick held t := by
  induction h generalizing held with
  | nil => rfl
  | @char p x y s t hxy _ ih =>
      have hiff : x = backtick ↔ y = backtick := hxy.eq_iff (by decide) (by decide)
      by_cases hy : y = backtick
      · rw [runsFrom, if_pos (hiff.mpr hy), runsFrom, if_pos hy, ih fun _ => hy]
      · have hrest : runsFrom backtick 0 s = runsFrom backtick 0 t := ih fun hne => absurd rfl hne
        rw [runsFrom, if_neg (mt hiff.mp hy), runsFrom, if_neg hy, hrest]
  | @drop p b y s t hb hseam h ih =>
      have hbtick : b ≠ backtick := by
        rintro rfl
        cases hb
      by_cases hzero : held = 0
      · subst hzero
        rw [runsFrom, if_neg hbtick, if_pos rfl, ih fun hne => absurd rfl hne]
      · -- The run in front ends with the blanks, and without them too.
        have hy : y ≠ backtick := by
          have hp := hheld hzero
          subst hp
          exact hseam.ne_of_fence (.inl rfl)
        rw [runsFrom, if_neg hbtick, if_neg hzero, ih fun hne => absurd rfl hne, runsFrom,
          if_neg hy, if_pos rfl, runsFrom, if_neg hy, if_neg hzero]

/-- Tightening a text keeps the lengths of its backtick runs. -/
theorem runs_eq (h : Tightened k p s t) : runs backtick s = runs backtick t :=
  h.runsFrom_eq fun hne => absurd rfl hne

end Tightened

end Text

/-! ## Parts of plain prose -/

theorem PaddedLabel.tightened_trimmed (l : PaddedLabel) (p : Char) :
    Text.Tightened .labels p (pattern.source l) l.trimmed := by
  have hopener : Text.Tightened .labels ']' [l.opener] [l.opener] := .refl _ _
  have hbrackets : Text.Tightened .labels '[' (l.label ++ [']', l.opener])
      (Text.trim l.label ++ [']', l.opener]) :=
    .trim (fun c hc => .opening ((Text.trimmed_trim l.label).head c hc))
      (fun c hc => .closing ((Text.trimmed_trim l.label).last c hc))
      (fun _ => .opening rfl) hopener
  exact .char (.same '[') hbrackets

theorem PaddedLabel.tightened_trimAll (s : Text) (p : Char) :
    Text.Tightened .labels p s (trimAll s) :=
  pattern.relates_replace (R := fun s t => ∀ p, Text.Tightened .labels p s t)
    (fun s p => .refl p s) (fun hs ht p => (hs p).append ht) tightened_trimmed s p

theorem Emphasis.starred_starAll (inWord : Bool) (s : Text) :
    List.Forall₂ (Text.Starred .plain) s (starAll inWord s) := by
  fun_induction starAll inWord s with
  | case1 => exact .nil
  | case2 inWord c s hc body rest hsplit hends ih =>
      rw [Bool.and_eq_true, decide_eq_true_eq] at hc
      rw [hc.1, (Text.splitAt?_eq_some_iff.mp hsplit).1]
      exact .cons (.star (by decide))
        (List.rel_append (Text.Starred.forall₂_refl body) (.cons (.star (by decide)) ih))
  | case3 inWord c s hc body rest hsplit hends ih => exact .cons (.same c) ih
  | case4 inWord c s hc hsplit ih => exact .cons (.same c) ih
  | case5 inWord c s hc ih => exact .cons (.same c) ih

namespace Cleanup

/-- The text with its underscores outside guarded stretches given way. -/
def stars (s : Text) : Text :=
  Piece.mapText (Emphasis.starAll false) id (Guarded.pattern.pieces s)

theorem plain_eq (s : Text) : plain s = stars (PaddedLabel.trimAll s) := rfl

theorem starred_stars (s : Text) : List.Forall₂ (Text.Starred .plain) s (stars s) := by
  have hpieces : List.Forall₂ (Text.Starred .plain)
      (Piece.textOf Guarded.pattern.source (Guarded.pattern.pieces s)) (stars s) :=
    Piece.relates_mapText (R := List.Forall₂ (Text.Starred .plain)) .nil
      (fun hs ht => List.rel_append hs ht) (Emphasis.starred_starAll false)
      Text.Starred.forall₂_refl _
  rwa [Guarded.pattern.textOf_pieces] at hpieces

/-- Plain prose is tightened, whatever stands in front. -/
theorem tightened_plain (s : Text) (p : Char) : Text.Tightened .plain p s (plain s) :=
  (PaddedLabel.tightened_trimAll s p).plain_of_labels.trans_starred (starred_stars _) (.same p)

end Cleanup

end Tidymark
