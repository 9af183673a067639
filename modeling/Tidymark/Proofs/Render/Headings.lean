import Tidymark.Document.Reading
import Tidymark.Proofs.Reflow.Openers
import Tidymark.Proofs.Render.Content
import Tidymark.Rule

/-!
# Heading lines

A heading marked by hashes is read without the hashes in front and without a
closing sequence behind, which is a run of hashes apart from the text.  A text
that ends in such a run gets a hash more, so that it is this one that is taken
for the closing sequence, and the text is read back.

An underlined heading puts its text at the start of a line, where its first
word can open a block.  Nothing in its text keeps it from being underlined
then.
-/

namespace Tidymark

namespace Render

/-! ## Hashes at the end of a text -/

/-- A text without the spaces and tabs at its end and the closing sequence in front of them: a run
of hashes with a space or tab before it, or with nothing else in the text. -/
def withoutHashes (s : Text) : Text :=
  let s := Text.dropEndWhile Text.isSpaceOrTab s
  let body := Text.dropEndWhile (· == '#') s
  if body.getLast?.all Text.isSpaceOrTab then body else s

/-- The text of a line that starts with `level` hashes and a space: what is left behind them
without a closing sequence and without the spaces and tabs around it. -/
def atxText? (level : Nat) (line : Text) : Option Text :=
  (Text.after? (List.replicate level '#' ++ [' ']) line).map fun s =>
    (Text.dropEndWhile Text.isSpaceOrTab (withoutHashes s)).dropWhile Text.isSpaceOrTab

/-- What is written behind the text of a heading. -/
def closing (text : Text) : Text := if needsClosing text then [' ', '#'] else []

theorem isLineEnd_of_mem_closing {text : Text} :
    ∀ c ∈ closing text, Markdown.isLineEnd c = false := by
  rw [closing]
  split
  · simp [Markdown.isLineEnd]
  · simp

theorem needsClosing_append {front hashes : Text}
    (hfront : ∀ c, front.getLast? = some c → isBlank c = true) (hne : hashes ≠ [])
    (hhashes : ∀ c ∈ hashes, c = '#') : needsClosing (front ++ hashes) = true := by
  have hword : Text.IsWord hashes := ⟨hne, fun c hc => by rw [hhashes c hc]; rfl⟩
  have hwords : Text.words (front ++ hashes) = Text.words front ++ [hashes] := by
    rcases List.eq_nil_or_concat front with rfl | ⟨r, c, rfl⟩
    · rw [List.nil_append, Text.words_nil, Text.words_of_isWord hword, List.nil_append]
    · rw [List.concat_eq_append] at hfront ⊢
      have hc : isBlank c = true := hfront c List.getLast?_concat
      rw [List.append_assoc, List.singleton_append, Text.words_append_blank hc,
        Text.words_append_blank hc, Text.words_nil, List.append_nil, Text.words_of_isWord hword]
  rw [needsClosing, hwords, List.getLast?_concat]
  simpa using hhashes

section Closing

variable {text : Text} (htrimmed : Text.Trimmed text) (hne : text ≠ [])

include htrimmed hne

theorem exists_getLast?_dropEndWhile (hneeds : needsClosing text = false) :
    ∃ c, (Text.dropEndWhile (· == '#') text).getLast? = some c ∧ isBlank c = false := by
  obtain ⟨hashes, hhashes, hsplit⟩ := Text.exists_eq_dropEndWhile_append (· == '#') text
  generalize Text.dropEndWhile (· == '#') text = body at hsplit ⊢
  subst hsplit
  by_contra hnot
  have hbody : ∀ c, body.getLast? = some c → isBlank c = true := by
    intro c hc
    rw [← Bool.not_eq_false]
    exact fun hblank => hnot ⟨c, hc, hblank⟩
  by_cases hnil : hashes = []
  · subst hnil
    rw [List.append_nil] at htrimmed hne
    have hlast := List.getLast?_eq_some_getLast hne
    exact hnot ⟨_, hlast, htrimmed.last _ hlast⟩
  · rw [needsClosing_append hbody hnil fun c hc => by simpa using hhashes c hc] at hneeds
    cases hneeds

/-- What is left without the hashes at the end of a text and its closing: the text with the space
in front of the hash that is added, or else a text that ends in no blank. -/
theorem dropEndWhile_closing :
    (closing text = [' ', '#'] ∧
        Text.dropEndWhile (· == '#') (text ++ closing text) = text ++ [' ']) ∨
      (closing text = [] ∧
        ∃ c, (Text.dropEndWhile (· == '#') text).getLast? = some c ∧ isBlank c = false) := by
  cases hneeds : needsClosing text with
  | true =>
      have hclosing : closing text = [' ', '#'] := if_pos hneeds
      have hhash : Text.dropEndWhile (· == '#') ['#'] = [] :=
        Text.dropEndWhile_of_all (by simp)
      refine .inl ⟨hclosing, ?_⟩
      have hsplit : text ++ [' ', '#'] = (text ++ [' ']) ++ ['#'] := by simp
      rw [hclosing, hsplit, Text.dropEndWhile_append List.getLast?_concat rfl, hhash,
        List.append_nil]
  | false =>
      exact .inr ⟨if_neg (by simp [hneeds]), exists_getLast?_dropEndWhile htrimmed hne hneeds⟩

theorem not_blank_of_getLast?_append_closing {c : Char}
    (hc : (text ++ closing text).getLast? = some c) : isBlank c = false := by
  rcases dropEndWhile_closing htrimmed hne with ⟨hclosing, _⟩ | ⟨hclosing, _⟩
  · have hhash : (text ++ [' ', '#']).getLast? = some '#' := by simp
    rw [hclosing, hhash] at hc
    cases hc
    rfl
  · rw [hclosing, List.append_nil] at hc
    exact htrimmed.last c hc

section Blanks

variable {p : Char → Bool} (hp : ∀ c, isBlank c = false → p c = false)

include hp

theorem dropEndWhile_append_closing :
    Text.dropEndWhile p (text ++ closing text) = text ++ closing text :=
  Text.dropEndWhile_eq_self fun c hc =>
    hp c (not_blank_of_getLast?_append_closing htrimmed hne hc)

theorem dropEndWhile_append_space (hspace : p ' ' = true) :
    Text.dropEndWhile p (text ++ [' ']) = text := by
  have hlast := List.getLast?_eq_some_getLast hne
  rw [Text.dropEndWhile_append hlast (hp _ (htrimmed.last _ hlast)),
    Text.dropEndWhile_of_all (List.forall_mem_singleton.mpr hspace), List.append_nil]

end Blanks

theorem dropEndWhile_withoutHashes :
    Text.dropEndWhile Text.isSpaceOrTab (withoutHashes (text ++ closing text)) = text := by
  have hp : ∀ c, isBlank c = false → Text.isSpaceOrTab c = false := fun _ =>
    Text.isSpaceOrTab_of_not_blank
  rw [withoutHashes, dropEndWhile_append_closing htrimmed hne hp]
  rcases dropEndWhile_closing htrimmed hne with ⟨_, hbody⟩ | ⟨hclosing, c, hc, hblank⟩
  · have hspace : (text ++ [' ']).getLast?.all Text.isSpaceOrTab = true := by
      rw [List.getLast?_concat]
      rfl
    rw [hbody, if_pos hspace, dropEndWhile_append_space htrimmed hne hp rfl]
  · have hkind : ¬(Text.dropEndWhile (· == '#') text).getLast?.all Text.isSpaceOrTab = true := by
      simp [hc, hp c hblank]
    rw [hclosing, List.append_nil, if_neg hkind,
      Text.dropEndWhile_eq_self fun d hd => hp d (htrimmed.last d hd)]

theorem atxText?_append (level : Nat) :
    atxText? level (List.replicate level '#' ++ ' ' :: (text ++ closing text)) = some text := by
  have hafter : Text.after? (List.replicate level '#' ++ [' '])
      (List.replicate level '#' ++ ' ' :: (text ++ closing text)) = some (text ++ closing text) :=
    Text.after?_eq_some_iff.mpr (by simp)
  have hstart : text.dropWhile Text.isSpaceOrTab = text :=
    dropWhile_append_of_stop (a := []) (by simp) fun c hc =>
      Text.isSpaceOrTab_of_not_blank (htrimmed.head c hc)
  rw [atxText?, hafter, Option.map_some, dropEndWhile_withoutHashes htrimmed hne, hstart]

/-- The reader of headings drops what is written behind a text, and nothing else. -/
theorem withoutClosing_append : Markdown.Leaf.withoutClosing (text ++ closing text) = text := by
  have hp : ∀ c, isBlank c = false → (c == ' ') = false := by
    intro c hc
    rw [beq_eq_false_iff_ne]
    rintro rfl
    cases hc
  have hends : ∀ c, isBlank c = false → (c == ' ' || Markdown.isLineEnd c) = false := fun c hc =>
    Bool.or_eq_false_iff.mpr ⟨hp c hc, Markdown.isLineEnd_of_not_blank hc⟩
  rw [Markdown.Leaf.withoutClosing, dropEndWhile_append_closing htrimmed hne hends]
  rcases dropEndWhile_closing htrimmed hne with ⟨_, hbody⟩ | ⟨hclosing, c, hc, hblank⟩
  · rw [hbody, if_neg (by simp), dropEndWhile_append_space htrimmed hne hp rfl, if_pos (by simp)]
  · have hbody : Text.dropEndWhile (· == ' ') (Text.dropEndWhile (· == '#') text) =
        Text.dropEndWhile (· == '#') text :=
      Text.dropEndWhile_eq_self fun d hd => by
        rw [hc] at hd
        cases hd
        exact hp c hblank
    have hnil : Text.dropEndWhile (· == '#') text ≠ [] := by
      intro hnil
      rw [hnil] at hc
      cases hc
    rw [hclosing, List.append_nil, if_neg (by simpa using hnil), hbody, if_neg (Nat.lt_irrefl _)]

end Closing

end Render

namespace Markdown

theorem lineLength_append {l : Text} (hl : ∀ c ∈ l, isLineEnd c = false) (s : Text) :
    lineLength (l ++ '\n' :: s) = l.length := by
  induction l with
  | nil => rfl
  | cons c l ih =>
      rw [List.forall_mem_cons] at hl
      rw [List.cons_append, lineLength, if_neg (by simp [hl.1]), ih hl.2, List.length_cons]

theorem atxHeading_append (n level : Nat) {l : Text} (hne : l ≠ [])
    (hstart : ∀ c, l.head? = some c → isBlank c = false)
    (hl : ∀ c ∈ l, isLineEnd c = false) (s : Text) :
    Leaf.atxHeading ⟨n, List.replicate level '#' ++ ' ' :: (l ++ '\n' :: s)⟩ level =
      ⟨.heading ⟨n, n + level + 1 + l.length + 1⟩ level
          ⟨n + level + 1, n + level + 1 + (Leaf.withoutClosing l).length⟩,
        ⟨n + level + 1 + l.length + 1, s⟩, false⟩ := by
  have hblanks : blankRun (' ' :: (l ++ '\n' :: s)) = 1 := by
    obtain ⟨c, l, rfl⟩ := List.exists_cons_of_ne_nil hne
    have hc := isLineBlank_of_not_blank (hstart c rfl)
    have hspace : isLineBlank ' ' = true := rfl
    rw [blankRun, if_pos hspace, List.cons_append, blankRun, if_neg (by simp [hc])]
  have hlevel : (List.replicate level '#' ++ ' ' :: (l ++ '\n' :: s)).drop level =
      ' ' :: (l ++ '\n' :: s) := List.drop_left' List.length_replicate
  simp only [Leaf.atxHeading, Place.skip, hlevel, hblanks, List.drop_succ_cons, List.drop_zero,
    lineLength_append hl, List.drop_left, List.take_left]
  rfl

end Markdown

namespace Render

section AtxLine

variable {text : Text} (htrimmed : Text.Trimmed text) (hne : text ≠ [])

include htrimmed hne

/-- The reader of blocks finds the text in the line that is written for it. -/
theorem slice_atxHeading (level : Nat)
    (hends : ∀ c ∈ text ++ closing text, Markdown.isLineEnd c = false) (before s : Text) :
    ∃ span inline stop,
      Markdown.Leaf.atxHeading
          ⟨before.length, List.replicate level '#' ++ ' ' :: (text ++ closing text ++ '\n' :: s)⟩
          level = ⟨.heading span level inline, ⟨stop, s⟩, false⟩ ∧
        Text.slice (before ++ (List.replicate level '#' ++
          ' ' :: (text ++ closing text ++ '\n' :: s))) inline = text := by
  have hstart : ∀ c, (text ++ closing text).head? = some c → isBlank c = false := by
    intro c hc
    rw [List.head?_append_of_ne_nil _ hne] at hc
    exact htrimmed.head c hc
  have hread := Markdown.atxHeading_append before.length level
    (List.append_ne_nil_of_left_ne_nil hne _) hstart hends s
  rw [withoutClosing_append htrimmed hne] at hread
  refine ⟨_, _, _, hread, ?_⟩
  have hfront : before ++ (List.replicate level '#' ++
      ' ' :: (text ++ closing text ++ '\n' :: s)) =
      (before ++ List.replicate level '#' ++ [' ']) ++ (text ++ (closing text ++ '\n' :: s)) := by
    simp
  rw [Text.slice, hfront, List.drop_left' (by simp [Nat.add_assoc]), Nat.add_sub_cancel_left,
    List.take_left]

theorem heading_eq_atx {h : Heading} (hlow : 1 ≤ h.level) (hhigh : h.level ≤ 6)
    (hatx : h.style = .atx ∨ 2 < h.level) (htext : h.text = text) :
    heading h =
      .ok (List.replicate h.level '#' ++ ' ' :: (text ++ closing text) ++ ['\n', '\n']) := by
  have hkept : ¬(h.style = .setext ∧ h.level ≤ 2 ∧ text ≠ []) := by
    rintro ⟨hsetext, hlevel, _⟩
    rcases hatx with hatx | hatx
    · rw [hsetext] at hatx
      cases hatx
    · exact absurd hlevel (Nat.not_le.mpr hatx)
  rw [heading, if_pos ⟨hlow, hhigh⟩, htext, htrimmed.trim_eq]
  dsimp only
  rw [if_neg hkept, atxHeading, if_neg (by simpa using hne), closing, List.cons_append]

end AtxLine

/-- The text of a heading written with hashes is read back from its line, and the reader of blocks
finds it there as well. -/
theorem heading_read_back {h : Heading} (hlow : 1 ≤ h.level) (hhigh : h.level ≤ 6)
    (hatx : h.style = .atx ∨ 2 < h.level) (hne : h.text ≠ []) (htrim : Text.trim h.text = h.text)
    (hbreak : '\n' ∉ h.text) (hreturn : '\r' ∉ h.text) :
    ∃ line, heading h = .ok (line ++ ['\n', '\n']) ∧ '\n' ∉ line ∧ '\r' ∉ line ∧
      atxText? h.level line = some h.text ∧
      ∀ before s, ∃ span inline stop,
        Markdown.atxLevel? (line ++ '\n' :: s) = some h.level ∧
        Markdown.Leaf.atxHeading ⟨before.length, line ++ '\n' :: s⟩ h.level =
          ⟨.heading span h.level inline, ⟨stop, s⟩, false⟩ ∧
        Text.slice (before ++ (line ++ '\n' :: s)) inline = h.text := by
  have htrimmed : Text.Trimmed h.text := by
    rw [← htrim]
    exact Text.trimmed_trim h.text
  have hends : ∀ c ∈ h.text ++ closing h.text, Markdown.isLineEnd c = false := by
    rw [List.forall_mem_append]
    refine ⟨fun c hc => ?_, isLineEnd_of_mem_closing⟩
    rw [Markdown.isLineEnd, Bool.or_eq_false_iff, beq_eq_false_iff_ne, beq_eq_false_iff_ne]
    exact ⟨fun hc' => hbreak (hc' ▸ hc), fun hc' => hreturn (hc' ▸ hc)⟩
  have hline : ∀ c ∈ List.replicate h.level '#' ++ ' ' :: (h.text ++ closing h.text),
      Markdown.isLineEnd c = false := by
    rw [List.forall_mem_append, List.forall_mem_cons]
    exact ⟨fun c hc => by rw [List.eq_of_mem_replicate hc]; rfl, rfl, hends⟩
  refine ⟨_, heading_eq_atx htrimmed hne hlow hhigh hatx rfl, fun hmem => ?_, fun hmem => ?_,
    atxText?_append htrimmed hne h.level, fun before s => ?_⟩
  · cases hline _ hmem
  · cases hline _ hmem
  · obtain ⟨span, inline, stop, hread, hslice⟩ :=
      slice_atxHeading htrimmed hne h.level hends before s
    rw [List.append_assoc, List.cons_append]
    exact ⟨span, inline, stop, Markdown.atxLevel?_append hlow hhigh (by simp), hread, hslice⟩

/-- A text of a hash behind a blank that is no space. -/
theorem heading_read_back_hash :
    ∃ line, heading ⟨3, "a\u00a0#".toList, .setext⟩ = .ok (line ++ ['\n', '\n']) ∧
      atxText? 3 line = some "a\u00a0#".toList := by
  obtain ⟨line, hwritten, _, _, hread, _⟩ :=
    @heading_read_back ⟨3, "a\u00a0#".toList, .setext⟩ (by decide) (by decide) (.inr (by decide))
      (by decide) (by decide +kernel) (by decide) (by decide)
  exact ⟨line, hwritten, hread⟩

/-! ## Underlined headings -/

/-- A text is a line, an underline below it, and a blank line. -/
def Underlined (t line : Text) : Prop :=
  ∃ (mark : Char) (n : Nat), (mark = '=' ∨ mark = '-') ∧ n ≠ 0 ∧
    Text.lines t = [line, List.replicate n mark, [], []]

theorem lines_append_blankLine {l : Text} (hl : '\n' ∉ l) :
    Text.lines (l ++ ['\n', '\n']) = [l, [], []] := by
  rw [Text.lines_append_break hl]
  rfl

section Lines

variable {text : Text} (hbreak : '\n' ∉ text)

include hbreak

theorem lines_setextHeading (level : Nat) :
    Text.lines (setextHeading level text) =
      [text, List.replicate (max text.length 3) (if level = 1 then '=' else '-'), [], []] := by
  have hunderline :
      '\n' ∉ List.replicate (max text.length 3) (if level = 1 then '=' else '-') := by
    intro hmem
    have hmark := List.eq_of_mem_replicate hmem
    split at hmark
    · cases hmark
    · cases hmark
  rw [setextHeading, List.append_assoc, List.cons_append, Text.lines_append_break hbreak,
    lines_append_blankLine hunderline]

theorem exists_lines_atxHeading (level : Nat) :
    ∃ line, Text.lines (atxHeading level text) = [line, [], []] := by
  have hline : '\n' ∉ List.replicate level '#' ++
      (if text.isEmpty then [] else ' ' :: text ++ closing text) := by
    have hhashes : '\n' ∉ List.replicate level '#' := fun hmem => by
      cases List.eq_of_mem_replicate hmem
    have hclosing : '\n' ∉ closing text := fun hmem => by
      cases isLineEnd_of_mem_closing _ hmem
    split
    · rwa [List.append_nil]
    · simp [hhashes, hbreak, hclosing]
  exact ⟨_, lines_append_blankLine hline⟩

end Lines

/-- A heading is underlined exactly if it asks to be, may be by its level and has words; the line
above is its text then. -/
theorem underlined_iff {h : Heading} {t : Text} (ht : heading h = .ok t) (hbreak : '\n' ∉ h.text)
    {line : Text} :
    Underlined t line ↔
      (h.style = .setext ∧ h.level ≤ 2 ∧ Text.words h.text ≠ []) ∧ line = Text.trim h.text := by
  have htrim : '\n' ∉ Text.trim h.text := fun hmem => hbreak ((Text.trim_sublist _).subset hmem)
  rw [heading] at ht
  split at ht
  · simp only [ne_eq, trim_eq_nil_iff] at ht
    split at ht
    · next hsetext =>
        cases ht
        have hlines := lines_setextHeading htrim h.level
        constructor
        · rintro ⟨mark, n, _, _, hline⟩
          rw [hlines] at hline
          exact ⟨hsetext, (List.cons.inj hline).1.symm⟩
        · rintro ⟨_, rfl⟩
          exact ⟨_, _, by split <;> simp, by omega, hlines⟩
    · next hatx =>
        cases ht
        obtain ⟨first, hlines⟩ := exists_lines_atxHeading htrim h.level
        constructor
        · rintro ⟨mark, n, _, _, hline⟩
          rw [hlines] at hline
          simp at hline
        · exact fun h => absurd h.1 hatx
  · cases ht

/-- A line whose first word is no block opener, nor one that is overlooked, is read as more of a
paragraph, if its blanks are spaces. -/
theorem paragraph_line {line w : Text} {ws : List Text} (htrimmed : Text.Trimmed line)
    (hwords : Text.words line = w :: ws) (hspaced : Markdown.Spaced line)
    (hopens : Token.opensBlock w = false) (hover : ¬Token.Overlooked w) :
    Markdown.lineInterrupts true false line = false ∧ Markdown.underline? line = none := by
  have hw : Text.IsWord w := Text.isWord_of_mem_words (by rw [hwords]; exact List.mem_cons_self)
  obtain ⟨front, rest, rfl, hfront, hrest, _⟩ := Text.exists_of_words_eq_cons hwords
  cases front with
  | nil =>
      rw [List.nil_append] at hspaced ⊢
      have hnot : ¬Markdown.BlockStart (w ++ rest) := by
        intro hstart
        rcases Token.opensBlock_or_overlooked_of_append hw hrest hstart with h | h
        · rw [hopens] at h
          cases h
        · exact hover h
      have hne : w ++ rest ≠ [] := List.append_ne_nil_of_left_ne_nil hw.ne_nil rest
      rw [Markdown.blockStart_iff hne hspaced, not_or] at hnot
      exact ⟨by simpa using hnot.1, by simpa using hnot.2⟩
  | cons c front =>
      have hc := htrimmed.head c rfl
      rw [hfront c List.mem_cons_self] at hc
      cases hc

/-- With the style of underlines, a heading is underlined whatever word its text starts with, if
its level allows it.  The line above the underline starts with this word, so it is read as more of
a paragraph if the word is no block opener, nor one that is overlooked. -/
theorem underlined_tidy {c : HeadingConfig} (hstyle : c.style = .setext) {h : Heading}
    (hbreak : '\n' ∉ h.text) {t : Text} (ht : heading (h.tidy c) = .ok t) :
    ((∃ line, Underlined t line) ↔ (h.tidy c).level ≤ 2 ∧ Text.words h.text ≠ []) ∧
      ∀ line, Underlined t line → ∃ w ws, Text.words h.text = w :: ws ∧
        Text.words line = w :: ws ∧
        (Token.opensBlock w = false → ¬Token.Overlooked w → Markdown.Spaced line →
          Markdown.lineInterrupts true false line = false ∧ Markdown.underline? line = none) := by
  have htext : (h.tidy c).text = Text.trim h.text := rfl
  have htrim : '\n' ∉ (h.tidy c).text := fun hmem => hbreak ((Text.trim_sublist _).subset hmem)
  have hsetext : (h.tidy c).style = .setext ↔ (h.tidy c).level ≤ 2 := by
    rw [Heading.tidy]
    simp [hstyle]
  simp only [underlined_iff ht htrim, htext, Text.words_trim, hsetext]
  constructor
  · simp
  · rintro line ⟨⟨_, _, hwords⟩, rfl⟩
    obtain ⟨w, ws, hw⟩ := List.exists_cons_of_ne_nil hwords
    have hline : Text.words (Text.trim (Text.trim h.text)) = w :: ws := by
      rw [Text.words_trim, Text.words_trim, hw]
    exact ⟨w, ws, hw, hline, fun hopens hover hspaced =>
      paragraph_line (Text.trimmed_trim _) hline hspaced hopens hover⟩

/-- A heading of two words on the second level. -/
theorem underlined_tidy_words :
    ∃ t, heading (Heading.tidy { style := .setext } ⟨2, "a b".toList, .atx⟩) = .ok t ∧
      Underlined t "a b".toList ∧ Markdown.lineInterrupts true false "a b".toList = false := by
  have hwritten : heading (Heading.tidy { style := .setext } ⟨2, "a b".toList, .atx⟩) =
      .ok "a b\n---\n\n".toList := rfl
  have hline : Underlined "a b\n---\n\n".toList "a b".toList := ⟨'-', 3, .inr rfl, by decide, rfl⟩
  have hspaced : Markdown.Spaced ['a', ' ', 'b'] := by
    simp [Markdown.Spaced, Markdown.isAsciiBlank, Markdown.isLineBlank, Markdown.isLineEnd]
  obtain ⟨w, ws, hwords, _, hplain⟩ :=
    (@underlined_tidy { style := .setext } rfl ⟨2, "a b".toList, .atx⟩ (by decide) _ hwritten).2
      _ hline
  have hw : Text.words "a b".toList = [['a'], ['b']] := by decide +kernel
  cases hw.symm.trans hwords
  have hover : ¬Token.Overlooked ['a'] := by
    generalize hword : ['a'] = word
    rintro (hmark | _)
    · cases hword
    · have hlength := congrArg List.length hword
      simp at hlength
  exact ⟨_, hwritten, hline, (hplain (by decide) hover hspaced).1⟩

/-- Not each line above an underline starts with a word that opens no block. -/
theorem underlined_not_only_plain :
    ¬∀ (c : HeadingConfig) (h : Heading) (t line w : Text), c.style = .setext →
      '\n' ∉ h.text → heading (h.tidy c) = .ok t → Underlined t line →
      (Text.words line).head? = some w → Token.opensBlock w = false := by
  intro h
  have hline : Underlined "- a\n===\n\n".toList "- a".toList := ⟨'=', 3, .inl rfl, by decide, rfl⟩
  have hopens := h { style := .setext } ⟨1, "- a".toList, .atx⟩ _ _ ['-'] rfl (by decide) rfl hline
    (by decide +kernel)
  cases hopens

end Render

end Tidymark
