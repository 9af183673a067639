import Tidymark.Proofs.Discovery.Patterns

/-!
# Two spellings of a path

A path with a dot and a slash in front leads where the path leads, and it has
the same names.  Patterns that look at names see no difference.  A pattern
that is compared with the whole path does: it stands for one of the two
spellings only.
-/

namespace Tidymark

open Tidymark.Path

namespace Path

/-- A path told from the current directory. -/
def fromHere (path : Text) : Text := '.' :: '/' :: path

variable {path : Text}

theorem components_eq_inner (hdot : path.head? ≠ some '.') (hslash : path.head? ≠ some '/') :
    components path = inner (split path) := by
  cases path with
  | nil => rfl
  | cons c s =>
      have hc : c ≠ '/' := by simpa using hslash
      obtain ⟨part, rest, hparts⟩ := List.exists_cons_of_ne_nil (split_ne_nil s)
      have hsplit : split (c :: s) = (c :: part) :: rest := by
        rw [split, if_neg hc, hparts]
        rfl
      have hcurrent : c :: part ≠ ['.'] := by
        intro heq
        rw [(List.cons.inj heq).1] at hdot
        exact hdot rfl
      rw [components, hsplit]
      exact if_neg hcurrent

/-- The dot in front is a component of its own, the only difference. -/
theorem components_fromHere (hdot : path.head? ≠ some '.') (hslash : path.head? ≠ some '/') :
    components (fromHere path) = .current :: components path := by
  have hsplit : split (fromHere path) = ['.'] :: split path := rfl
  rw [components_eq_inner hdot hslash, components, hsplit]
  exact if_pos rfl

theorem names_fromHere (hdot : path.head? ≠ some '.') (hslash : path.head? ≠ some '/') :
    names (fromHere path) = names path := by
  rw [names, components_fromHere hdot hslash]
  rfl

theorem fileName?_fromHere (hdot : path.head? ≠ some '.') (hslash : path.head? ≠ some '/') :
    fileName? (fromHere path) = fileName? path := by
  rw [fileName?, fileName?, components_fromHere hdot hslash]
  cases components path with
  | nil => rfl
  | cons c cs => rw [List.getLast?_cons_cons]

end Path

namespace IgnoreRule

/-- A rule applies to a path for the names in it. -/
def appliesByNames (path : Text) : IgnoreRule → Bool
  | .place p => (fileName? path).getD [] == p
  | rule => rule.applies path

/-- The components of the path that a rule is compared with. -/
def components? : IgnoreRule → Option (List Component)
  | .place p => some (components p)
  | _ => none

theorem applies_eq_true_iff {path : Text} {rule : IgnoreRule} : rule.applies path = true ↔
    rule.appliesByNames path = true ∨ rule.components? = some (components path) := by
  cases rule with
  | directory dir => simp [appliesByNames, components?]
  | wildcard pattern => simp [appliesByNames, components?]
  | place p =>
      rw [applies, appliesByNames, components?, Bool.or_eq_true, beq_iff_eq, Option.some_inj,
        or_comm, eq_comm (a := components path)]

theorem appliesByNames_fromHere {path : Text} (hdot : path.head? ≠ some '.')
    (hslash : path.head? ≠ some '/') (rule : IgnoreRule) :
    rule.appliesByNames (fromHere path) = rule.appliesByNames path := by
  have hnames := names_fromHere hdot hslash
  have hfile := fileName?_fromHere hdot hslash
  cases rule with
  | directory dir =>
      change applies (fromHere path) (.directory dir) = applies path (.directory dir)
      rw [applies, applies, hnames]
  | wildcard pattern =>
      change applies (fromHere path) (.wildcard pattern) = applies path (.wildcard pattern)
      rw [applies, applies, hfile]
  | place p => rw [appliesByNames, appliesByNames, hfile]

end IgnoreRule

open IgnoreRule (ofPattern)

/-- One of the patterns applies to a path for the names in it. -/
def IgnoredByNames (patterns : List Text) (path : Text) : Prop :=
  ∃ pattern ∈ patterns, (ofPattern pattern).appliesByNames path = true

/-- One of the patterns is the path with these components. -/
def Lists (patterns : List Text) (cs : List Component) : Prop :=
  ∃ pattern ∈ patterns, (ofPattern pattern).components? = some cs

instance (patterns : List Text) (path : Text) : Decidable (IgnoredByNames patterns path) :=
  inferInstanceAs (Decidable (∃ pattern ∈ patterns, _))

instance (patterns : List Text) (cs : List Component) : Decidable (Lists patterns cs) :=
  inferInstanceAs (Decidable (∃ pattern ∈ patterns, _))

theorem isIgnored_iff_byNames_or_lists {patterns : List Text} {path : Text} :
    isIgnored patterns path = true ↔
      IgnoredByNames patterns path ∨ Lists patterns (components path) := by
  simp only [isIgnored, List.any_eq_true, IgnoreRule.applies_eq_true_iff, and_or_left, exists_or]
  rfl

/-- The two spellings of a path are ignored alike exactly if the names in it are enough to ignore
it, or the patterns list both spellings or neither. -/
theorem isIgnored_fromHere_iff {path : Text} (hdot : path.head? ≠ some '.')
    (hslash : path.head? ≠ some '/') (patterns : List Text) :
    isIgnored patterns (fromHere path) = isIgnored patterns path ↔
      IgnoredByNames patterns path ∨
        (Lists patterns (.current :: components path) ↔ Lists patterns (components path)) := by
  have hbyNames : IgnoredByNames patterns (fromHere path) ↔ IgnoredByNames patterns path := by
    simp only [IgnoredByNames, IgnoreRule.appliesByNames_fromHere hdot hslash]
  rw [Bool.eq_iff_iff, isIgnored_iff_byNames_or_lists, isIgnored_iff_byNames_or_lists, hbyNames,
    components_fromHere hdot hslash]
  by_cases h : IgnoredByNames patterns path
  · exact iff_of_true (iff_of_true (.inl h) (.inl h)) (.inl h)
  · rw [or_iff_right h, or_iff_right h, or_iff_right h]

/-- A pattern with a path beside one with the name of the file, which is enough in each spelling. -/
theorem isIgnored_fromHere_iff_listed :
    let path : Text := "docs/skip.md".toList
    let patterns := ["docs//skip.md".toList, "skip.md".toList]
    path.head? ≠ some '.' ∧ path.head? ≠ some '/' ∧
      ¬(Lists patterns (.current :: components path) ↔ Lists patterns (components path)) ∧
      isIgnored patterns (fromHere path) = isIgnored patterns path := by
  intro path patterns
  have hdot : path.head? ≠ some '.' := by decide
  have hslash : path.head? ≠ some '/' := by decide
  have hbyNames : IgnoredByNames patterns path := by decide
  exact ⟨hdot, hslash, by decide, (isIgnored_fromHere_iff hdot hslash patterns).mpr (.inl hbyNames)⟩

/-- A pattern that is the path in one spelling leaves the other spelling alone. -/
theorem spellings_not_only_ignored_alike :
    ¬∀ (patterns : List Text) (path : Text), path.head? ≠ some '.' → path.head? ≠ some '/' →
      isIgnored patterns (fromHere path) = isIgnored patterns path := by
  intro h
  have hsame := h ["docs/skip.md".toList] "docs/skip.md".toList (by decide) (by decide)
  revert hsame
  decide

end Tidymark
