import Tidymark.Text.Case

/-!
# Letter case

Texts with the same lower-case form are the same but for letter case.  The
converse holds where no sigma is: a small sigma has two forms, and which one a
capital sigma becomes depends on the letters around it.
-/

namespace Tidymark

namespace Text

def unfinal (c : Char) : Char := if c = '\u03C2' then '\u03C3' else c

/-- The letters of a text in lower case, each on its own, with one form of the small sigma. -/
def caseless (s : Text) : Text := (s.flatMap lowerChar).map unfinal

@[simp] theorem caseless_cons (c : Char) (s : Text) :
    caseless (c :: s) = (lowerChar c).map unfinal ++ caseless s := by
  simp [caseless]

theorem unfinal_lowerSigma (before behind : Text) :
    unfinal (lowerSigma before behind) = '\u03C3' := by
  rw [lowerSigma]
  split <;> rfl

theorem map_unfinal_lowerFrom (before s : Text) :
    (lowerFrom before s).map unfinal = caseless s := by
  induction s generalizing before with
  | nil => rfl
  | cons c s ih =>
      rw [lowerFrom, List.map_append, ih, caseless_cons]
      congr 1
      split
      · next hsigma =>
          subst hsigma
          rw [List.map_singleton, unfinal_lowerSigma]
          decide
      · rfl

@[simp] theorem map_unfinal_lower (s : Text) : (lower s).map unfinal = caseless s :=
  map_unfinal_lowerFrom [] s

theorem caseless_eq_of_lower_eq {s t : Text} (h : lower s = lower t) :
    caseless s = caseless t := by
  rw [← map_unfinal_lower s, h, map_unfinal_lower]

theorem map_unfinal_eq_self {s : Text} (h : '\u03C3' ∉ s.map unfinal) : s.map unfinal = s := by
  refine (List.map_congr_left ?_).trans (List.map_id s)
  intro c hc
  have hne : unfinal c ≠ '\u03C3' := fun heq => h (heq ▸ List.mem_map_of_mem hc)
  rw [unfinal] at hne ⊢
  split at hne
  · exact absurd rfl hne
  · next hfinal => rw [if_neg hfinal, id]

theorem lower_eq_caseless {s : Text} (h : '\u03C3' ∉ caseless s) : lower s = caseless s := by
  rw [← map_unfinal_lower] at h ⊢
  exact (map_unfinal_eq_self h).symm

theorem lower_eq_lower_iff {s t : Text} (h : '\u03C3' ∉ caseless s) :
    lower s = lower t ↔ caseless s = caseless t := by
  constructor
  · exact caseless_eq_of_lower_eq
  · intro heq
    rw [lower_eq_caseless h, lower_eq_caseless (heq ▸ h), heq]

theorem startsCased_append_dot (s : Text) : startsCased (s ++ ['.']) = startsCased s := by
  have hdot : ['.'].dropWhile isCaseIgnorable = [] := by decide
  rw [startsCased, startsCased, List.dropWhile_append, hdot]
  cases s.dropWhile isCaseIgnorable <;> rfl

theorem lowerFrom_append_dot (before s : Text) :
    lowerFrom (before ++ ['.']) s = lowerFrom before s := by
  induction s generalizing before with
  | nil => rfl
  | cons c s ih =>
      rw [lowerFrom, lowerFrom, lowerSigma, lowerSigma, startsCased_append_dot, ← List.cons_append,
        ih]

/-- A dot before a text does not matter to the letters behind it. -/
theorem lower_dot_cons (s : Text) : lower ('.' :: s) = '.' :: lower s := by
  have hdot : lowerChar '.' = ['.'] := by decide
  rw [lower, lowerFrom, if_neg (by decide), hdot, List.singleton_append]
  exact congrArg _ (lowerFrom_append_dot [] s)

end Text

end Tidymark
