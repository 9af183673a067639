import Tidymark.Proofs.Markdown.BlockStart
import Tidymark.Proofs.Render.Verbatim
import Tidymark.Rule

/-!
# Fences

The content of a block between fences ends in front of the first line that
closes the block.  The fence around a content is longer than any run of its
character in front of a line of it, so the first line that closes the block is
the one that is written for it, and the content is read back.  The language is
put behind the opening fence unseen: whether that line is read as it is meant
is up to the language.
-/

namespace Tidymark

namespace Render

/-! ## The closing line -/

/-- Whether a line closes a block opened by `n` of `mark`: behind spaces it has at least so many of
them, and then nothing but blanks. -/
def closesFence (mark : Char) (n : Nat) (line : Text) : Bool :=
  let s := line.dropWhile (· == ' ')
  n ≤ Text.runLength mark s && Text.isAllBlank (s.drop (Text.runLength mark s))

/-- The content read from the lines behind an opening fence, and the lines from the first one on
that closes the block. -/
def readFenced? (mark : Char) (n : Nat) : List Text → Option (Text × List Text)
  | [] => none
  | line :: rest =>
      if closesFence mark n line then some ([], line :: rest)
      else (readFenced? mark n rest).map fun (content, below) => (line ++ '\n' :: content, below)

theorem readFenced?_append {mark : Char} {n : Nat} {ls : List Text}
    (hls : ∀ l ∈ ls, closesFence mark n l = false) {closing : Text}
    (hclosing : closesFence mark n closing = true) (below : List Text) :
    readFenced? mark n (ls ++ closing :: below) =
      some (ls.flatMap (· ++ ['\n']), closing :: below) := by
  induction ls with
  | nil => exact if_pos hclosing
  | cons l ls ih =>
      rw [List.forall_mem_cons] at hls
      rw [List.cons_append, readFenced?, if_neg (by simp [hls.1]), ih hls.2, List.flatMap_cons]
      simp

theorem closesFence_replicate {mark : Char} (hmark : mark ≠ ' ') (n : Nat) :
    closesFence mark n (List.replicate n mark) = true := by
  have hstart : (List.replicate n mark).dropWhile (· == ' ') = List.replicate n mark := by
    apply dropWhile_append_of_stop (a := []) (by simp)
    intro c hc
    rw [List.eq_of_mem_replicate (List.mem_of_mem_head? hc)]
    simpa using hmark
  have hrun : Text.runLength mark (List.replicate n mark) = n := by
    have happend := Text.runLength_replicate_append mark n []
    rwa [List.append_nil] at happend
  simp [closesFence, hstart, hrun, Text.isAllBlank]

theorem le_runLength_of_closesFence {mark : Char} (hmark : isBlank mark = false) {n : Nat}
    (hn : n ≠ 0) {line : Text} (h : closesFence mark n line = true) :
    n ≤ Text.runLength mark (Text.trimStart line) := by
  rw [closesFence, Bool.and_eq_true, decide_eq_true_eq] at h
  have hle := h.1
  obtain ⟨r, hr⟩ := Text.exists_of_le_runLength hle
  have hspaces : ∀ c ∈ line.takeWhile (· == ' '), isBlank c = true := by
    intro c hc
    have hspace := List.mem_takeWhile_imp hc
    rw [beq_iff_eq.mp hspace]
    rfl
  have hhead : ∀ c, (line.dropWhile (· == ' ')).head? = some c → isBlank c = false := by
    intro c hc
    rw [hr, List.head?_append, List.head?_replicate, if_neg hn, Option.some_or] at hc
    cases hc
    exact hmark
  have htrim : Text.trimStart line = line.dropWhile (· == ' ') := by
    have hstop := dropWhile_append_of_stop hspaces hhead
    rwa [List.takeWhile_append_dropWhile] at hstop
  rwa [htrim]

/-! ## The fence around a content -/

theorem foldl_max_le_iff {f : Text → Nat} {ls : List Text} {n m : Nat} :
    ls.foldl (fun n l => max n (f l)) n ≤ m ↔ n ≤ m ∧ ∀ l ∈ ls, f l ≤ m := by
  induction ls generalizing n with
  | nil => simp
  | cons l ls ih => rw [List.foldl_cons, ih, Nat.max_le, List.forall_mem_cons, and_assoc]

theorem runLength_le_longestRun (mark : Char) {content line : Text}
    (hline : line ∈ Text.lines content) :
    Text.runLength mark (Text.trimStart line) ≤ longestRun mark content :=
  (foldl_max_le_iff.mp (Nat.le_refl (longestRun mark content))).2 line hline

theorem mem_lines_of_mem_contentLines {content line : Text} (h : line ∈ contentLines content) :
    line ∈ Text.lines content := by
  rw [contentLines] at h
  split at h
  · cases h
  · rw [dropFinalBreak] at h
    split at h
    · next hlast =>
        obtain ⟨r, rfl⟩ := List.getLast?_eq_some_iff.mp hlast
        rw [List.dropLast_concat] at h
        rw [Text.lines_append_cons]
        exact List.mem_append_left _ h
    · exact h

/-- No line of a content closes the block that is written for it. -/
theorem closesFence_of_mem_contentLines (style : FenceStyle) {content line : Text}
    (h : line ∈ contentLines content) :
    closesFence style.char (max 3 (longestRun style.char content + 1)) line = false := by
  have hmark : isBlank style.char = false := by cases style <;> rfl
  have hrun := runLength_le_longestRun style.char (mem_lines_of_mem_contentLines h)
  rw [← Bool.not_eq_true]
  intro hcloses
  have hle := le_runLength_of_closesFence hmark (by omega) hcloses
  omega

end Render

theorem Text.flatMap_append_break {ls : List Text} (hne : ls ≠ []) :
    ls.flatMap (· ++ ['\n']) = joinLines ls ++ ['\n'] := by
  induction ls with
  | nil => exact absurd rfl hne
  | cons l ls ih =>
      cases ls with
      | nil => simp [joinLines]
      | cons k ls => rw [List.flatMap_cons, ih (List.cons_ne_nil k ls)]; simp [joinLines]

namespace Render

theorem flatMap_contentLines (content : Text) :
    (contentLines content).flatMap (· ++ ['\n']) =
      if content = [] ∨ content.getLast? = some '\n' then content else content ++ ['\n'] := by
  rw [contentLines]
  split
  · next h => simp [h]
  · next hne =>
      rw [Text.flatMap_append_break (Text.lines_ne_nil _), Text.joinLines_lines, dropFinalBreak]
      split
      · next hlast =>
          obtain ⟨r, rfl⟩ := List.getLast?_eq_some_iff.mp hlast
          simp
      · next hlast => rw [if_neg (not_or.mpr ⟨hne, hlast⟩)]

/-- The content of a block between fences is read back: the opening line is a fence and the
language, and the first line behind it that closes the block is the fence again, which is followed
by a blank line and whatever else there is.  In front of it stands the content, with a line feed at
its end if it is not empty. -/
theorem content_read_back {b : CodeBlock} (hfenced : b.fenced = true)
    (hlanguage : '\n' ∉ b.language) (s : Text) :
    ∃ n below, 3 ≤ n ∧
      Text.lines (code b ++ s) = (List.replicate n b.fence.char ++ b.language) :: below ∧
      readFenced? b.fence.char n below =
        some (if b.content = [] ∨ b.content.getLast? = some '\n' then b.content
            else b.content ++ ['\n'],
          List.replicate n b.fence.char :: [] :: Text.lines s) := by
  have hmark : b.fence.char ≠ ' ' := by cases b.fence <;> decide
  have hcode : code b = fencedCode b := if_pos hfenced
  have hlines := lines_fencedCode_append b (Text.lines_of_not_mem hlanguage) s
  rw [← hcode, List.nil_append] at hlines
  refine ⟨_, _, Nat.le_max_left 3 (longestRun b.fence.char b.content + 1), hlines, ?_⟩
  rw [fenceFor, readFenced?_append (fun l hl => closesFence_of_mem_contentLines b.fence hl)
    (closesFence_replicate hmark _), flatMap_contentLines]

/-- A content with backticks behind blanks and no line feed at its end. -/
theorem content_read_back_backticks :
    ∃ n below, 3 ≤ n ∧
      Text.lines (code ⟨['c'], "\t\x60\x60\x60\x60\n~~~".toList, true, .backticks⟩ ++ ['p']) =
        (List.replicate n backtick ++ ['c']) :: below ∧
      readFenced? backtick n below =
        some ("\t\x60\x60\x60\x60\n~~~\n".toList, [List.replicate n backtick, [], ['p']]) :=
  @content_read_back ⟨['c'], "\t\x60\x60\x60\x60\n~~~".toList, true, .backticks⟩ rfl
    (by decide) ['p']

/-! ## The opening line -/

/-- A line says that a block with this language is opened by `n` of `mark`: it starts with a run of
so many, the language is what follows, and none of it is a backtick if the fence is made of them. -/
structure Opens (mark : Char) (n : Nat) (language line : Text) : Prop where
  run_eq : Text.runLength mark line = n
  drop_eq : line.drop n = language
  not_mem : mark = backtick → backtick ∉ language

/-- The languages that can stand behind a fence. -/
def Suits : FenceStyle → Text → Prop
  | .backticks, language => backtick ∉ language
  | .tildes, language => language.head? ≠ some '~'

theorem suits_iff {style : FenceStyle} {language : Text} :
    Suits style language ↔
      language.head? ≠ some style.char ∧ (style.char = backtick → backtick ∉ language) := by
  cases style with
  | backticks =>
      exact ⟨fun h => ⟨fun hhead => h (List.mem_of_mem_head? hhead), fun _ => h⟩,
        fun h => h.2 rfl⟩
  | tildes => exact ⟨fun h => ⟨h, fun hmark => by cases hmark⟩, fun h => h.1⟩

theorem runLength_replicate_append_iff {mark : Char} {n : Nat} {s : Text} :
    Text.runLength mark (List.replicate n mark ++ s) = n ↔ s.head? ≠ some mark := by
  rw [Text.runLength_replicate_append, Nat.add_eq_left]
  constructor
  · rintro hrun hhead
    obtain ⟨r, rfl⟩ := List.head?_eq_some_iff.mp hhead
    simp [Text.runLength] at hrun
  · exact Text.runLength_eq_zero

theorem opens_iff {style : FenceStyle} {n : Nat} {language : Text} :
    Opens style.char n language (List.replicate n style.char ++ language) ↔
      Suits style language := by
  rw [suits_iff]
  constructor
  · rintro ⟨hrun, _, hbare⟩
    exact ⟨runLength_replicate_append_iff.mp hrun, hbare⟩
  · rintro ⟨hhead, hbare⟩
    exact ⟨runLength_replicate_append_iff.mpr hhead, List.drop_left' List.length_replicate, hbare⟩

end Render

namespace Markdown

theorem take_throughLineFeed {l : Text} (hl : '\n' ∉ l) (s : Text) :
    (l ++ '\n' :: s).take (throughLineFeed (l ++ '\n' :: s)) = l ++ ['\n'] := by
  induction l with
  | nil => rfl
  | cons c l ih =>
      rw [List.mem_cons, not_or] at hl
      rw [List.cons_append, throughLineFeed, if_neg (Ne.symm hl.1), List.take_succ_cons, ih hl.2,
        List.cons_append]

theorem openingFence?_cons_eq_some_iff {mark : Char} (hmark : mark = '~' ∨ mark = backtick)
    {r : Text} {n : Nat} :
    openingFence? (mark :: r) = some (mark, n) ↔
      Text.runLength mark (mark :: r) = n ∧ 3 ≤ n ∧ (mark = backtick →
        backtick ∉ ((mark :: r).drop n).take (throughLineFeed ((mark :: r).drop n))) := by
  rw [openingFence?, Option.ite_none_right_eq_some, Option.some.injEq, Prod.mk.injEq]
  simp only [Bool.and_eq_true, Bool.or_eq_true, beq_iff_eq, decide_eq_true_eq, hmark, true_and,
    Bool.not_eq_true', Bool.and_eq_false_imp, List.contains_eq_mem,
    decide_eq_false_iff_not]
  constructor
  · rintro ⟨⟨hlength, hinfo⟩, rfl⟩
    exact ⟨rfl, hlength, hinfo⟩
  · rintro ⟨rfl, hlength, hinfo⟩
    exact ⟨⟨hlength, hinfo⟩, rfl⟩

end Markdown

namespace Render

/-- The reader finds the fence as it is written exactly if the language suits it. -/
theorem openingFence?_append_iff {style : FenceStyle} {n : Nat} (hn : 3 ≤ n) {language : Text}
    (hlanguage : '\n' ∉ language) (s : Text) :
    Markdown.openingFence? (List.replicate n style.char ++ (language ++ '\n' :: s)) =
      some (style.char, n) ↔ Suits style language := by
  have hmark : style.char = '~' ∨ style.char = backtick := by
    cases style
    · exact .inr rfl
    · exact .inl rfl
  have hhead : (language ++ '\n' :: s).head? ≠ some style.char ↔
      language.head? ≠ some style.char := by
    cases language with
    | nil => cases style <;> simp [FenceStyle.char, backtick]
    | cons c language => exact Iff.rfl
  obtain ⟨k, rfl⟩ := Nat.exists_eq_add_of_le' hn
  have hcons : List.replicate (k + 3) style.char ++ (language ++ '\n' :: s) =
      style.char :: (List.replicate (k + 2) style.char ++ (language ++ '\n' :: s)) := rfl
  rw [hcons, Markdown.openingFence?_cons_eq_some_iff hmark, ← hcons, List.drop_left' (by simp),
    Markdown.take_throughLineFeed hlanguage, runLength_replicate_append_iff, hhead, suits_iff]
  simp [hn, backtick]

/-- The closing line of a block has as many marks as are written in front of the language in its
opening line.  That the opening line says so, and that the reader finds the fence in it, is up to
the language: none of it may be a backtick behind a fence of these, and it may not start with a
tilde behind a fence of those. -/
theorem opens_written_iff (c : Config) {b : CodeBlock} (hfenced : b.fenced = true)
    (hlanguage : '\n' ∉ b.language) (s : Text) :
    ∃ n opening, 3 ≤ n ∧
      Text.lines (code (b.tidy c.code) ++ s) = opening ::
        (contentLines b.content ++
          List.replicate n c.code.fenceStyle.char :: [] :: Text.lines s) ∧
      (Opens c.code.fenceStyle.char n b.language opening ↔ Suits c.code.fenceStyle b.language) ∧
      (Markdown.openingFence? (code (b.tidy c.code) ++ s) = some (c.code.fenceStyle.char, n) ↔
        Suits c.code.fenceStyle b.language) := by
  have hcode : code (b.tidy c.code) = fencedCode { b with fence := c.code.fenceStyle } := by
    rw [CodeBlock.tidy, if_pos hfenced]
    exact if_pos hfenced
  have hlines := lines_fencedCode_append { b with fence := c.code.fenceStyle }
    (Text.lines_of_not_mem hlanguage) s
  rw [← hcode, List.nil_append] at hlines
  have hlength := Nat.le_max_left 3 (longestRun c.code.fenceStyle.char b.content + 1)
  refine ⟨_, _, hlength, hlines, opens_iff, ?_⟩
  have hsplit : code (b.tidy c.code) ++ s = fenceFor c.code.fenceStyle b.content ++
      (b.language ++ '\n' :: (ended b.content ++
        (fenceFor c.code.fenceStyle b.content ++ '\n' :: '\n' :: s))) := by
    rw [hcode]
    simp [fencedCode]
  rw [hsplit]
  exact openingFence?_append_iff hlength hlanguage _

/-- A tilde in front of a language makes the fence of tildes longer than the one that closes it. -/
theorem opens_written_iff_tilde :
    ∃ n opening, 3 ≤ n ∧
      Text.lines (code ⟨['~', 'x'], ['y'], true, .tildes⟩) =
        [opening, ['y'], List.replicate n '~', [], []] ∧
      ¬Opens '~' n ['~', 'x'] opening := by
  obtain ⟨n, opening, hn, hlines, hopens, _⟩ :=
    @opens_written_iff { code := { fenceStyle := .tildes } } ⟨['~', 'x'], ['y'], true, .backticks⟩
      rfl (by decide) []
  rw [List.append_nil] at hlines
  exact ⟨n, opening, hn, hlines, fun h => hopens.mp h rfl⟩

/-- Not each language can stand behind the configured fence, though another fence bears it. -/
theorem languages_not_only_suited :
    ¬∀ (c : Config) (b : CodeBlock), b.fenced = true → Text.trim b.language = b.language →
      '\n' ∉ b.language →
      ∃ n opening content, Text.lines (code (b.tidy c.code)) =
          opening :: (content ++ [List.replicate n c.code.fenceStyle.char, [], []]) ∧
        Opens c.code.fenceStyle.char n b.language opening := by
  intro h
  obtain ⟨_, _, _, _, hopens⟩ := h {} ⟨"a\x60b".toList, ['x'], true, .tildes⟩ rfl
    (by decide +kernel) (by decide)
  exact hopens.not_mem rfl (by decide)

end Render

end Tidymark
