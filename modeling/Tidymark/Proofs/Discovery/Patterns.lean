import Tidymark.Ignore
import Tidymark.Proofs.FileTree.Paths
import Mathlib.Data.List.Forall2

/-!
# What ignore patterns stand for

A pattern is one of three kinds, told by its text alone.  A directory is found
wherever its names stand in a row among those of a path, so also in each path
below.  A pattern with wildcards fits a name if the name can be cut into what
the characters of the pattern take.  Any other pattern is a path or a name.
-/

namespace Tidymark

open Tidymark.Path

namespace Discovery

/-- A pattern stands for a directory and all below it. -/
def IsDirectoryPattern (pattern : Text) : Prop := "/**".toList <:+ pattern

end Discovery

open Discovery (IsDirectoryPattern)

/-! ## Below a path -/

namespace Path

/-- A path goes on from another: it starts with the components of that. -/
def IsBelow (below path : Text) : Prop := components path <+: components below

theorem IsBelow.names_prefix {below path : Text} (h : IsBelow below path) :
    names path <+: names below := by
  obtain ⟨rest, hrest⟩ := h
  rw [names, names, ← hrest, namesOf_append]
  exact List.prefix_append _ _

/-- What is written behind a path and a slash goes on from the path. -/
theorem isBelow_append_slash {path : Text} (hpath : path ≠ []) (s : Text) :
    IsBelow (path ++ '/' :: s) path := by
  obtain ⟨part, rest, hparts⟩ := List.exists_cons_of_ne_nil (split_ne_nil path)
  rw [IsBelow, components, components, split_append_slash, hparts, List.cons_append]
  cases part with
  | nil =>
      have hrest : rest ≠ [] := by
        rintro rfl
        apply hpath
        rw [← unsplit_split path, hparts, unsplit]
      have hlonger : rest ++ split s ≠ [] := List.append_ne_nil_of_left_ne_nil hrest _
      simp only [List.isEmpty_eq_false_iff.mpr hrest, List.isEmpty_eq_false_iff.mpr hlonger,
        inner_append]
      exact List.prefix_append (.root :: inner rest) _
  | cons c p =>
      simp only [← List.cons_append, inner_append]
      split
      · exact List.prefix_append (.current :: inner rest) _
      · exact List.prefix_append _ _

end Path

namespace IgnoreRule

/-! ## Directories -/

theorem occursIn_iff_infix {dir names : List Text} :
    occursIn dir names = true ↔ dir <:+: names := by
  induction names with
  | nil => rw [occursIn, List.isEmpty_iff, List.infix_nil]
  | cons name rest ih =>
      rw [occursIn, Bool.or_eq_true, List.isPrefixOf_iff_prefix, ih, List.infix_cons_iff]

/-- The names in the text of a directory pattern: its parts that are not empty. -/
def directoryNames (dir : Text) : List Text := (split dir).filter fun part => !part.isEmpty

theorem withoutEnding?_eq_some_iff {ending s r : Text} :
    withoutEnding? ending s = some r ↔ s = r ++ ending := by
  rw [withoutEnding?, Option.map_eq_some_iff]
  constructor
  · rintro ⟨t, ht, rfl⟩
    rw [← List.reverse_reverse s, Text.after?_eq_some_iff.mp ht, List.reverse_append,
      List.reverse_reverse]
  · rintro rfl
    exact ⟨r.reverse, Text.after?_eq_some_iff.mpr List.reverse_append, List.reverse_reverse r⟩

theorem ofPattern_append (dir : Text) :
    ofPattern (dir ++ "/**".toList) = .directory (directoryNames dir) := by
  rw [ofPattern, withoutEnding?_eq_some_iff.mpr rfl]
  rfl

theorem ofPattern_of_not_directory {pattern : Text} (h : ¬IsDirectoryPattern pattern) :
    ofPattern pattern =
      if '*' ∈ pattern ∨ '?' ∈ pattern then .wildcard pattern else .place pattern := by
  have hnone : withoutEnding? "/**".toList pattern = none := by
    rw [Option.eq_none_iff_forall_ne_some]
    intro dir hdir
    exact h ⟨dir, (withoutEnding?_eq_some_iff.mp hdir).symm⟩
  simp only [ofPattern, hnone, Bool.or_eq_true, List.contains_iff_mem]

/-! ## Wildcards -/

/-- What a character of a pattern takes: a star any text without a slash, a question mark one
character that is no slash, and any other character itself. -/
def Takes (c : Char) (part : Text) : Prop :=
  if c = '*' then '/' ∉ part
  else if c = '?' then ∃ d, d ≠ '/' ∧ part = [d]
  else part = [c]

/-- A name can be cut so that each character of a pattern takes one part. -/
def Fits (pattern name : Text) : Prop :=
  ∃ parts, List.Forall₂ Takes pattern parts ∧ parts.flatten = name

theorem takes_star {part : Text} : Takes '*' part ↔ '/' ∉ part := by
  rw [Takes, if_pos rfl]

theorem Takes.exists_cons {c : Char} {part : Text} (h : Takes c part) (hc : c ≠ '*') :
    ∃ d, part = [d] ∧ if c = '?' then d ≠ '/' else c = d := by
  rw [Takes, if_neg hc] at h
  split at h
  · next hmark =>
      obtain ⟨d, hd, rfl⟩ := h
      exact ⟨d, rfl, by rwa [if_pos hmark]⟩
  · next hmark => exact ⟨c, h, by rw [if_neg hmark]⟩

theorem takes_singleton {c d : Char} (hc : c ≠ '*') :
    Takes c [d] ↔ if c = '?' then d ≠ '/' else c = d := by
  constructor
  · intro h
    obtain ⟨e, he, hcase⟩ := h.exists_cons hc
    rwa [List.singleton_inj.mp he]
  · intro h
    rw [Takes, if_neg hc]
    split
    · next hmark => exact ⟨d, by rwa [if_pos hmark] at h, rfl⟩
    · next hmark =>
        rw [if_neg hmark] at h
        rw [h]

theorem fits_nil {name : Text} : Fits [] name ↔ name = [] := by
  constructor
  · rintro ⟨parts, hparts, rfl⟩
    cases hparts
    rfl
  · rintro rfl
    exact ⟨[], .nil, rfl⟩

theorem fits_star {pattern name : Text} : Fits ('*' :: pattern) name ↔
    Fits pattern name ∨ ∃ c rest, name = c :: rest ∧ c ≠ '/' ∧ Fits ('*' :: pattern) rest := by
  constructor
  · rintro ⟨parts, hparts, rfl⟩
    cases hparts with
    | @cons _ part _ parts htakes hrest =>
        rw [takes_star] at htakes
        cases part with
        | nil => exact .inl ⟨parts, hrest, rfl⟩
        | cons c part =>
            rw [List.mem_cons, not_or] at htakes
            refine .inr ⟨c, part ++ parts.flatten, rfl, Ne.symm htakes.1, part :: parts, ?_, rfl⟩
            exact .cons (takes_star.mpr htakes.2) hrest
  · rintro (⟨parts, hparts, rfl⟩ | ⟨c, rest, rfl, hc, parts, hparts, rfl⟩)
    · exact ⟨[] :: parts, .cons (takes_star.mpr List.not_mem_nil) hparts, rfl⟩
    · cases hparts with
      | @cons _ part _ parts htakes hrest =>
          rw [takes_star] at htakes
          refine ⟨(c :: part) :: parts, .cons (takes_star.mpr ?_) hrest, rfl⟩
          rw [List.mem_cons, not_or]
          exact ⟨Ne.symm hc, htakes⟩

theorem fits_cons {p : Char} (hp : p ≠ '*') {pattern name : Text} : Fits (p :: pattern) name ↔
    ∃ c rest, name = c :: rest ∧ (if p = '?' then c ≠ '/' else p = c) ∧ Fits pattern rest := by
  constructor
  · rintro ⟨parts, hparts, rfl⟩
    cases hparts with
    | @cons _ part _ parts htakes hrest =>
        obtain ⟨c, rfl, hc⟩ := htakes.exists_cons hp
        exact ⟨c, parts.flatten, rfl, hc, parts, hrest, rfl⟩
  · rintro ⟨c, rest, rfl, hc, parts, hparts, rfl⟩
    exact ⟨[c] :: parts, .cons ((takes_singleton hp).mpr hc) hparts, rfl⟩

theorem matchesWildcard_iff_fits {pattern name : Text} :
    matchesWildcard pattern name = true ↔ Fits pattern name := by
  fun_induction matchesWildcard pattern name with
  | case1 name => rw [fits_nil, List.isEmpty_iff]
  | case2 p ps ih =>
      rw [Bool.and_eq_true, beq_iff_eq, ih]
      by_cases hp : p = '*'
      · subst hp
        rw [fits_star]
        simp
      · rw [fits_cons hp]
        simp [hp]
  | case3 ps c s ih ihstar =>
      rw [Bool.or_eq_true, Bool.and_eq_true, ih, ihstar, bne_iff_ne, @fits_star ps (c :: s)]
      simp
  | case4 ps c s hp ih =>
      rw [Bool.and_eq_true, ih, bne_iff_ne, fits_cons hp]
      simp
  | case5 p ps c s hp hmark ih =>
      rw [Bool.and_eq_true, ih, beq_iff_eq, fits_cons hp]
      simp [hmark]

instance (pattern name : Text) : Decidable (Fits pattern name) :=
  decidable_of_iff _ matchesWildcard_iff_fits

example : Fits "*.dr*t.m?".toList "a.b.draft.md".toList ∧ ¬Fits "a*?".toList "a".toList := by
  decide +kernel

/-! ## The three kinds of patterns -/

/-- A pattern stands for a path.  A path without a file name is taken to have the empty one, and a
directory pattern without names stands for nothing. -/
inductive StandsFor (pattern path : Text) : Prop where
  | directory {dir : Text} (hpattern : pattern = dir ++ "/**".toList)
      (hne : directoryNames dir ≠ []) (hrow : directoryNames dir <:+: names path)
  | wildcard (hdirectory : ¬IsDirectoryPattern pattern) (hwild : '*' ∈ pattern ∨ '?' ∈ pattern)
      (hfits : Fits pattern ((fileName? path).getD []))
  | place (hdirectory : ¬IsDirectoryPattern pattern) (hplain : ¬('*' ∈ pattern ∨ '?' ∈ pattern))
      (hsame : components path = components pattern ∨ (fileName? path).getD [] = pattern)

theorem applies_ofPattern_iff {pattern path : Text} :
    (ofPattern pattern).applies path = true ↔ StandsFor pattern path := by
  by_cases hdirectory : IsDirectoryPattern pattern
  · obtain ⟨dir, rfl⟩ := hdirectory
    rw [ofPattern_append, applies, Bool.and_eq_true, occursIn_iff_infix]
    constructor
    · rintro ⟨hne, hrow⟩
      exact .directory rfl (by simpa using hne) hrow
    · rintro (⟨hpattern, hne, hrow⟩ | ⟨hnot, -, -⟩ | ⟨hnot, -, -⟩)
      · rw [List.append_cancel_right hpattern]
        exact ⟨by simpa using hne, hrow⟩
      · exact absurd ⟨dir, rfl⟩ hnot
      · exact absurd ⟨dir, rfl⟩ hnot
  · have hno {dir : Text} : pattern ≠ dir ++ "/**".toList :=
      fun heq => hdirectory ⟨dir, heq.symm⟩
    rw [ofPattern_of_not_directory hdirectory]
    split
    · next hwild =>
        rw [applies, matchesWildcard_iff_fits]
        constructor
        · exact .wildcard hdirectory hwild
        · rintro (⟨hpattern, -, -⟩ | ⟨-, -, hfits⟩ | ⟨-, hplain, -⟩)
          · exact absurd hpattern hno
          · exact hfits
          · exact absurd hwild hplain
    · next hplain =>
        rw [applies, Bool.or_eq_true, beq_iff_eq, beq_iff_eq]
        constructor
        · exact .place hdirectory hplain
        · rintro (⟨hpattern, -, -⟩ | ⟨-, hwild, -⟩ | ⟨-, -, hsame⟩)
          · exact absurd hpattern hno
          · exact absurd hwild hplain
          · exact hsame

/-- A directory pattern that stands for a path stands for each with the same names in a row. -/
theorem StandsFor.of_names_infix {pattern path below : Text} (h : StandsFor pattern path)
    (hdirectory : IsDirectoryPattern pattern) (hnames : names path <:+: names below) :
    StandsFor pattern below := by
  rcases h with ⟨hpattern, hne, hrow⟩ | ⟨hnot, -, -⟩ | ⟨hnot, -, -⟩
  · exact .directory hpattern hne (hrow.trans hnames)
  · exact absurd hdirectory hnot
  · exact absurd hdirectory hnot

end IgnoreRule

open IgnoreRule (StandsFor)

theorem isIgnored_eq_true_iff {patterns : List Text} {path : Text} :
    isIgnored patterns path = true ↔ ∃ pattern ∈ patterns, StandsFor pattern path := by
  simp only [isIgnored, List.any_eq_true, IgnoreRule.applies_ofPattern_iff]

/-- A path is ignored exactly if one of the patterns stands for it, and what is below a path for
which a directory pattern stands is ignored by that pattern too. -/
theorem isIgnored_iff_standsFor (patterns : List Text) :
    (∀ path, isIgnored patterns path = true ↔ ∃ pattern ∈ patterns, StandsFor pattern path) ∧
      ∀ pattern ∈ patterns, IsDirectoryPattern pattern → ∀ path below, StandsFor pattern path →
        IsBelow below path → StandsFor pattern below ∧ isIgnored patterns below = true := by
  refine ⟨fun path => isIgnored_eq_true_iff, ?_⟩
  intro pattern hpattern hdirectory path below hstands hbelow
  have hstands' := hstands.of_names_infix hdirectory hbelow.names_prefix.isInfix
  exact ⟨hstands', isIgnored_eq_true_iff.mpr ⟨pattern, hpattern, hstands'⟩⟩

/-- A directory is found at any depth, with all below it. -/
theorem isIgnored_iff_standsFor_docs :
    let patterns := ["*.draft.md".toList, "docs//build/**".toList]
    "docs//build/**".toList ∈ patterns ∧ IsDirectoryPattern "docs//build/**".toList ∧
      StandsFor "docs//build/**".toList "./a/docs/../build".toList ∧
      IsBelow "./a/docs/../build/x/README.md".toList "./a/docs/../build".toList ∧
      isIgnored patterns "./a/docs/../build/x/README.md".toList = true := by
  intro patterns
  have hmem : "docs//build/**".toList ∈ patterns := by decide
  have hdirectory : IsDirectoryPattern "docs//build/**".toList := ⟨"docs//build".toList, rfl⟩
  have hstands : StandsFor "docs//build/**".toList "./a/docs/../build".toList :=
    @StandsFor.directory _ _ "docs//build".toList rfl (by decide) ⟨["a".toList], [], by decide⟩
  have hbelow := isBelow_append_slash (by decide : "./a/docs/../build".toList ≠ [])
    "x/README.md".toList
  obtain ⟨-, hdirectories⟩ := isIgnored_iff_standsFor patterns
  exact ⟨hmem, hdirectory, hstands, hbelow,
    (hdirectories _ hmem hdirectory _ _ hstands hbelow).2⟩

end Tidymark
