import Mathlib.Data.List.Chain
import Tidymark.Proofs.Markdown.BlockStart
import Tidymark.Proofs.Reflow.Layout

/-!
# Lines that start with a block opener

Whether a line of words ends a paragraph is asked of its first word only.  The
answer is right for every kind of line but two: a thematic break whose first
word is two asterisks or two underscores, and a list item whose number is one
with zeros in front.  But for these, a reflowed text starts no block behind its
first line, unless a hard break forces it to.
-/

namespace Tidymark

/-! ## The first word of a line -/

namespace Text

theorem exists_joinWords_eq (w : Text) (ws : List Text) :
    ∃ rest, joinWords (w :: ws) = w ++ rest ∧ ∀ c, rest.head? = some c → isBlank c = true := by
  cases ws with
  | nil => exact ⟨[], (List.append_nil w).symm, by simp⟩
  | cons v ws => exact ⟨' ' :: joinWords (v :: ws), rfl, by simp [isBlank]⟩

section FirstWord

variable {w rest a b : Text} (hrest : ∀ c, rest.head? = some c → isBlank c = true)
  (ha : ∀ c ∈ a, isBlank c = false) (h : w ++ rest = a ++ b)

include hrest ha h

theorem exists_eq_append_of_append_eq : ∃ v, w = a ++ v ∧ b = v ++ rest := by
  rcases List.append_eq_append_iff.mp h with ⟨x, rfl, hx⟩ | ⟨x, rfl, rfl⟩
  · cases x with
    | nil => exact ⟨[], by simp, by simpa using hx.symm⟩
    | cons c x =>
        have hc : isBlank c = false := ha c (by simp)
        have hblank : isBlank c = true := hrest c (by rw [hx]; rfl)
        rw [hblank] at hc
        cases hc
  · exact ⟨x, rfl, rfl⟩

theorem prefix_of_append_eq : a <+: w := by
  obtain ⟨v, hv, _⟩ := exists_eq_append_of_append_eq hrest ha h
  exact ⟨v, hv.symm⟩

/-- What a line starts with, up to a space, is its first word. -/
theorem eq_of_append_eq (hw : ∀ c ∈ w, isBlank c = false)
    (hb : ∀ c, b.head? = some c → c = ' ') : w = a := by
  obtain ⟨v, rfl, rfl⟩ := exists_eq_append_of_append_eq hrest ha h
  cases v with
  | nil => rw [List.append_nil]
  | cons c v =>
      have hc : isBlank c = false := hw c (by simp)
      have hspace : c = ' ' := hb c rfl
      rw [hspace] at hc
      cases hc

end FirstWord

end Text

namespace Token

open Markdown

/-- The first words that end a paragraph in some lines and are not taken for block openers. -/
inductive Overlooked : Text → Prop where
  | twoMarks {mark : Char} (hmark : mark = '*' ∨ mark = '_') : Overlooked [mark, mark]
  | paddedOne {zeros : Nat} (hzeros : 0 < zeros) {delimiter : Char}
      (hdelimiter : delimiter = '.' ∨ delimiter = ')') :
      Overlooked (List.replicate zeros '0' ++ ['1', delimiter])

/-! ## Words that open blocks -/

theorem opensBlock_underline {mark : Char} (hmark : mark = '=' ∨ mark = '-') (n : Nat) :
    opensBlock (List.replicate n mark) = true := by
  rcases hmark with rfl | rfl <;> simp [opensBlock.eq_def]

theorem opensBlock_hashes {n : Nat} (hn : n ≤ 6) : opensBlock (List.replicate n '#') = true := by
  simp [opensBlock.eq_def, hn]

theorem opensBlock_fence {mark : Char} (hmark : mark = backtick ∨ mark = '~') (rest : Text) :
    opensBlock (List.replicate 3 mark ++ rest) = true := by
  rcases hmark with rfl | rfl <;>
    simp [opensBlock.eq_def, backtick, List.isPrefixOf, List.replicate]

theorem opensBlock_html {r : Text} (hr : opensHtml r = true) : opensBlock ('<' :: r) = true := by
  simp [opensBlock.eq_def, hr]

theorem opensBlock_or_overlooked_marks {mark : Char} (hmark : mark = '*' ∨ mark = '-' ∨ mark = '_')
    {n : Nat} (hn : n ≠ 0) :
    opensBlock (List.replicate n mark) = true ∨ Overlooked (List.replicate n mark) := by
  match n with
  | 0 => exact absurd rfl hn
  | 1 => exact .inl (by rcases hmark with rfl | rfl | rfl <;> decide)
  | 2 =>
      rcases hmark with rfl | rfl | rfl
      · exact .inr (.twoMarks (.inl rfl))
      · exact .inl (opensBlock_underline (.inr rfl) 2)
      · exact .inr (.twoMarks (.inr rfl))
  | n + 3 =>
      have hthree : 3 ≤ n + 3 := Nat.le_add_left 3 n
      refine .inl ?_
      rcases hmark with rfl | rfl | rfl <;> simp [opensBlock.eq_def, hthree]

theorem opensBlock_of_overlooked {w : Text} (h : Overlooked w) : opensBlock w = false := by
  cases h with
  | twoMarks hmark => rcases hmark with rfl | rfl <;> decide
  | @paddedOne zeros hzeros delimiter hdelimiter =>
      obtain ⟨n, rfl⟩ := Nat.exists_eq_add_one_of_ne_zero (Nat.pos_iff_ne_zero.mp hzeros)
      rw [List.replicate_succ, List.cons_append]
      simp [opensBlock.eq_def, backtick, List.isPrefixOf, List.replicate]

theorem opensBlock_or_overlooked_number (zeros : Nat) {delimiter : Char}
    (hdelimiter : delimiter = '.' ∨ delimiter = ')') :
    opensBlock (List.replicate zeros '0' ++ ['1'] ++ [delimiter]) = true ∨
      Overlooked (List.replicate zeros '0' ++ ['1'] ++ [delimiter]) := by
  rw [List.append_assoc, List.singleton_append]
  cases zeros with
  | zero => exact .inl (by rcases hdelimiter with rfl | rfl <;> decide)
  | succ zeros => exact .inr (.paddedOne zeros.succ_pos hdelimiter)

/-! ## Tags -/

theorem opensTag_cons {c : Char} (hc : c ≠ '/') (s : Text) :
    opensTag (c :: s) = opensTag ('/' :: c :: s) := by
  unfold opensTag
  split
  · next r heq =>
      cases heq
      exact absurd rfl hc
  · rfl

theorem opensTag_eq {slash name rest : Text} (hslash : slash = [] ∨ slash = ['/'])
    (hne : name ≠ []) (hname : ∀ c ∈ name, c.isAlphanum = true)
    (hrest : ∀ c, rest.head? = some c → c.isAlphanum = false) :
    opensTag (slash ++ name ++ rest) =
      ((rest.isEmpty || ['>'].isPrefixOf rest || ['/', '>'].isPrefixOf rest) &&
        blockTags.any (·.toList == Html.lowered name)) := by
  have hopen : opensTag (slash ++ name ++ rest) = opensTag ('/' :: (name ++ rest)) := by
    rcases hslash with rfl | rfl
    · obtain ⟨c, name, rfl⟩ := List.exists_cons_of_ne_nil hne
      apply opensTag_cons
      rintro rfl
      cases hname '/' List.mem_cons_self
    · rw [List.singleton_append, List.cons_append]
  rw [hopen]
  unfold opensTag Html.lowered
  simp only [takeWhile_append_of_stop hname hrest, dropWhile_append_of_stop hname hrest]

theorem mem_blockTags_of_mem_elements : ∀ tag ∈ verbatimElements ++ Html.blockElements,
    tag ∈ blockTags := by
  decide +kernel

section HtmlStart

variable {r rest : Text} (hr : ∀ c ∈ r, isBlank c = false)
  (hrest : ∀ c, rest.head? = some c → isBlank c = true)

include hr hrest

/-- A tag ends in the word that it starts in, if no space stands behind its name. -/
theorem opensTag_of_append {slash name after : Text} {tag : String}
    (htag : tag ∈ verbatimElements ++ Html.blockElements)
    (hslash : slash = [] ∨ slash = ['/']) (hname : Html.lowered name = tag.toList)
    (hafter : EndsName after ∨ ['/', '>'] <+: after) (h : slash ++ name ++ after = r ++ rest) :
    opensTag r = true := by
  obtain ⟨hne, halnum⟩ := alphanum_of_lowered htag hname
  have hfront : ∀ c ∈ slash ++ name, isBlank c = false := by
    rw [List.forall_mem_append]
    refine ⟨?_, fun c hc => Text.isBlank_of_isAlphanum (halnum c hc)⟩
    rcases hslash with rfl | rfl <;> simp [isBlank]
  have hmem : blockTags.any (·.toList == Html.lowered name) = true :=
    List.any_eq_true.mpr ⟨tag, mem_blockTags_of_mem_elements tag htag, by
      rw [hname]
      exact beq_self_eq_true _⟩
  obtain ⟨v, rfl, rfl⟩ := Text.exists_eq_append_of_append_eq hrest hfront h.symm
  have heq := @opensTag_eq slash name v hslash hne halnum
  rw [hmem, Bool.and_true] at heq
  cases v with
  | nil => exact heq (by simp)
  | cons c v =>
      rcases hafter with hends | ⟨after, hclosing⟩
      · rcases hends c rfl with rfl | rfl
        · cases hr ' ' (by simp)
        · exact heq (by simp)
      · obtain ⟨rfl, hbracket⟩ := List.cons.inj hclosing
        cases v with
        | nil =>
            have hopened : rest = '>' :: after := hbracket.symm
            cases hrest '>' (by rw [hopened]; rfl)
        | cons d v =>
            obtain ⟨rfl, _⟩ := List.cons.inj hbracket
            exact heq (by simp)

theorem opensHtml_of_append (h : HtmlStart (r ++ rest)) : opensHtml r = true := by
  have hstart {a b : Text} (ha : ∀ c ∈ a, isBlank c = false) (h : r ++ rest = a ++ b) : a <+: r :=
    Text.prefix_of_append_eq hrest ha h
  generalize hline : r ++ rest = line at h
  cases h with
  | verbatim htag hname hafter =>
      have htag' := List.mem_append_left Html.blockElements htag
      simp [opensHtml, opensTag_of_append hr hrest htag' (.inl rfl) hname (.inl hafter) hline.symm]
  | comment after =>
      obtain ⟨v, rfl⟩ := hstart (a := ['!', '-', '-']) (by simp [isBlank]) hline
      simp [opensHtml]
  | instruction after =>
      obtain ⟨v, rfl⟩ := hstart (a := ['?']) (by simp [isBlank]) hline
      simp [opensHtml]
  | @declaration c hc after =>
      have hblank := Text.isBlank_of_isAlphanum (c := c) (by rw [Char.isAlphanum, hc, Bool.true_or])
      obtain ⟨v, rfl⟩ := hstart (a := ['!', c])
        (List.forall_mem_cons.mpr ⟨rfl, List.forall_mem_singleton.mpr hblank⟩) hline
      simp [opensHtml, hc]
  | cdata after =>
      obtain ⟨v, rfl⟩ := hstart (a := "![CDATA[".toList) (by simp [isBlank]) hline
      simp [opensHtml]
  | element hslash htag hname hafter =>
      have htag' := List.mem_append_right verbatimElements htag
      simp [opensHtml, opensTag_of_append hr hrest htag' hslash hname hafter hline.symm]

end HtmlStart

/-! ## Lines -/

/-- A line that ends a paragraph and starts with a word starts with a block opener, or with one of
the words that are not taken for one. -/
theorem opensBlock_or_overlooked_of_append {w rest : Text} (hw : Text.IsWord w)
    (hrest : ∀ c, rest.head? = some c → isBlank c = true) (h : BlockStart (w ++ rest)) :
    opensBlock w = true ∨ Overlooked w := by
  have hstart {a b : Text} (ha : ∀ c ∈ a, isBlank c = false) (h : w ++ rest = a ++ b) : a <+: w :=
    Text.prefix_of_append_eq hrest ha h
  have hfirst {a b : Text} (h : w ++ rest = a ++ b) (ha : ∀ c ∈ a, isBlank c = false)
      (hb : ∀ c, b.head? = some c → c = ' ') : w = a :=
    Text.eq_of_append_eq hrest ha h hw.not_blank hb
  generalize hline : w ++ rest = line at h
  cases h with
  | @thematicBreak mark hmark after hafter _ =>
      have hall : ∀ c ∈ w, c = mark := by
        intro c hc
        have hmem : c ∈ mark :: after := by
          rw [← hline]
          exact List.mem_append_left rest hc
        rcases List.mem_cons.mp hmem with hc' | hmem
        · exact hc'
        · refine (hafter c hmem).resolve_right ?_
          rintro rfl
          cases hw.not_blank ' ' hc
      rw [List.eq_replicate_of_mem hall]
      exact opensBlock_or_overlooked_marks hmark (mt List.length_eq_zero_iff.mp hw.ne_nil)
  | @underline mark hmark length _ spaces =>
      rw [hfirst hline (by rcases hmark with rfl | rfl <;> simp [isBlank])
        (by simp [List.head?_replicate])]
      exact .inl (opensBlock_underline hmark length)
  | @heading level _ hhigh after hafter =>
      rw [hfirst hline (by simp [isBlank]) hafter]
      exact .inl (opensBlock_hashes hhigh)
  | quote after =>
      obtain ⟨v, rfl⟩ := hstart (a := ['>']) (by simp [isBlank]) hline
      exact .inl (by simp [opensBlock.eq_def])
  | @bullet mark hmark after _ =>
      rw [hfirst (a := [mark]) hline (by rcases hmark with rfl | rfl | rfl <;> simp [isBlank])
        (by simp)]
      exact .inl (by rcases hmark with rfl | rfl | rfl <;> decide)
  | @number digits _ hone delimiter hdelimiter after _ =>
      obtain ⟨zeros, rfl⟩ := Text.eq_of_ofDigits?_eq_one hone
      have hmarker : ∀ c ∈ List.replicate zeros '0' ++ ['1'] ++ [delimiter], isBlank c = false := by
        rw [List.forall_mem_append, List.forall_mem_append, List.forall_mem_singleton,
          List.forall_mem_singleton]
        refine ⟨⟨fun c hc => ?_, rfl⟩, by rcases hdelimiter with rfl | rfl <;> rfl⟩
        rw [List.eq_of_mem_replicate hc]
        rfl
      rw [hfirst (b := ' ' :: after) (by simp [hline]) hmarker (by simp)]
      exact opensBlock_or_overlooked_number zeros hdelimiter
  | @backtickFence length hlength info _ =>
      have hfence : List.replicate length backtick =
          List.replicate 3 backtick ++ List.replicate (length - 3) backtick := by
        rw [List.replicate_append_replicate, Nat.add_sub_cancel' hlength]
      rw [hfence, List.append_assoc] at hline
      obtain ⟨v, rfl⟩ := hstart (by simp [isBlank, backtick]) hline
      exact .inl (opensBlock_fence (.inl rfl) v)
  | tildeFence info =>
      obtain ⟨v, rfl⟩ := hstart (by simp [isBlank]) hline
      exact .inl (opensBlock_fence (.inr rfl) v)
  | @html after hafter =>
      obtain ⟨v, rfl, rfl⟩ := Text.exists_eq_append_of_append_eq (a := ['<']) hrest
        (by simp [isBlank]) hline
      have hv : ∀ c ∈ v, isBlank c = false := fun c hc => hw.not_blank c (List.mem_cons_of_mem _ hc)
      exact .inl (opensBlock_html (opensHtml_of_append hv hrest hafter))

theorem opensBlock_or_overlooked {w : Text} {ws : List Text} (hw : Text.IsWord w)
    (h : BlockStart (Text.joinWords (w :: ws))) : opensBlock w = true ∨ Overlooked w := by
  obtain ⟨rest, hline, hrest⟩ := Text.exists_joinWords_eq w ws
  rw [hline] at h
  exact opensBlock_or_overlooked_of_append hw hrest h

/-- A line of words that ends a paragraph starts with a block opener exactly if its first word is
neither two asterisks or underscores nor a padded one. -/
theorem opensBlock_iff_of_blockStart {w : Text} (hw : Text.IsWord w) {ws : List Text}
    (h : BlockStart (Text.joinWords (w :: ws))) : opensBlock w = true ↔ ¬Overlooked w := by
  constructor
  · intro hopens hover
    rw [opensBlock_of_overlooked hover] at hopens
    cases hopens
  · exact (opensBlock_or_overlooked hw h).resolve_right

/-- The condition is met by a list item. -/
theorem opensBlock_iff_of_blockStart_item :
    opensBlock ['1', '.'] = true ↔ ¬Overlooked ['1', '.'] := by
  have hword : Text.IsWord ['1', '.'] := ⟨by decide, by simp [isBlank]⟩
  have hitem : BlockStart (Text.joinWords [['1', '.'], ['a']]) :=
    @BlockStart.number ['1'] (by decide) (by decide) '.' (.inl rfl) ['a']
      ⟨'a', List.mem_cons_self, by decide⟩
  exact opensBlock_iff_of_blockStart hword hitem

/-- Not each line of words that ends a paragraph starts with a block opener: a thematic break does
not if its first word is two asterisks. -/
theorem blockStart_not_only_opened : ¬∀ (w : Text) (ws : List Text),
    (∀ v ∈ w :: ws, Text.IsWord v) → BlockStart (Text.joinWords (w :: ws)) →
      opensBlock w = true := by
  intro h
  have hwords : ∀ v ∈ [['*', '*'], ['*']], Text.IsWord v := by
    rintro v hv
    rcases List.mem_cons.mp hv with rfl | hv
    · exact ⟨by decide, by simp [isBlank]⟩
    · rw [List.mem_singleton.mp hv]
      exact ⟨by decide, by simp [isBlank]⟩
  have hbreak : BlockStart ['*', '*', ' ', '*'] :=
    @BlockStart.thematicBreak '*' (.inl rfl) ['*', ' ', '*'] (by simp) (by decide)
  have hopens := h ['*', '*'] [['*']] hwords hbreak
  rw [opensBlock_of_overlooked (.twoMarks (.inl rfl))] at hopens
  cases hopens

/-! ## Reflowed text -/

theorem spaced_joinWords {ws : List Text} (hws : ∀ w ∈ ws, Text.IsWord w) :
    Spaced (Text.joinWords ws) := by
  have hword {w : Text} (hw : Text.IsWord w) : Spaced w := by
    intro c hc hblank
    rw [isAsciiBlank_of_not_blank (hw.not_blank c hc)] at hblank
    cases hblank
  induction ws with
  | nil => exact fun c hc => absurd hc List.not_mem_nil
  | cons w rest ih =>
      rw [List.forall_mem_cons] at hws
      cases rest with
      | nil => exact hword hws.1
      | cons next rest =>
          exact List.forall_mem_append.mpr
            ⟨hword hws.1, List.forall_mem_cons.mpr ⟨fun _ => rfl, ih hws.2⟩⟩

/-- A line behind the first of a reflowed text without links is read as more of the paragraph,
unless the line in front ends hard or its first word is not taken for a block opener. -/
theorem isChain_layout_of_no_link (width : Nat) {s : Text}
    (hs : Link.pattern.occursIn s = false) :
    (layout width s).IsChain fun line next =>
      lineInterrupts true false (Cluster.text next) = true ∨
          (underline? (Cluster.text next)).isSome →
        Cluster.endsHard line = true ∨
          ∃ token, next.head? = some token ∧ Overlooked token.text := by
  have hlaid := laid_layout width s
  refine hlaid.endsHard_of_opens.imp_of_mem_imp fun line next _ hmem hopens hinterrupts => ?_
  obtain ⟨token, tokens, rfl⟩ := List.exists_cons_of_ne_nil (hlaid.ne_nil next hmem)
  have hwords := isWord_of_mem_layout hs hmem
  have hfirst : Text.IsWord token.text := hwords _ List.mem_cons_self
  have hne : Cluster.text (token :: tokens) ≠ [] := by
    obtain ⟨rest, hline, _⟩ := Text.exists_joinWords_eq token.text (tokens.map (·.text))
    intro hnil
    rw [Cluster.text, List.map_cons, hline] at hnil
    exact hfirst.ne_nil (List.append_eq_nil_iff.mp hnil).1
  have hstart := (blockStart_iff hne (spaced_joinWords hwords)).mpr hinterrupts
  rcases opensBlock_or_overlooked hfirst hstart with h | h
  · exact .inl (hopens token rfl h)
  · exact .inr ⟨token, rfl, h⟩

end Token

end Tidymark
