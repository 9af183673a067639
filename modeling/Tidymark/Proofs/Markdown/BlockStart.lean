import Tidymark.Markdown.Interrupt
import Tidymark.Proofs.Markdown.Mark
import Tidymark.Proofs.Text.Runs
import Tidymark.Proofs.Text.Words
import Tidymark.Text.Digits

/-!
# Lines that end a paragraph

Eight kinds of line, seen without their indentation, end the paragraph before
them or turn it into a heading.  They are described here as they are written;
the reader finds exactly these at the start of a line that holds no other
blanks than spaces.
-/

namespace Tidymark

namespace Text

/-! ## Numbers -/

theorem digit?_eq_some_iff {c : Char} {d : Nat} :
    digit? 10 c = some d ↔ c.isDigit = true ∧ c.toNat - 48 = d := by
  by_cases hdigit : c.isDigit = true
  · have hhigh : c.toNat ≤ 57 := by
      simp only [Char.isDigit, Bool.and_eq_true, decide_eq_true_eq] at hdigit
      exact hdigit.2
    have hlt : c.toNat - 48 < 10 := by omega
    simp [digit?, hdigit, hlt]
  · -- Letters count on from ten.
    have hletter : ¬(if 'a' ≤ c ∧ c ≤ 'f' then c.toNat - 87
        else if 'A' ≤ c ∧ c ≤ 'F' then c.toNat - 55 else 10) < 10 := by
      split
      · next hlower =>
          have hlow : 97 ≤ c.toNat := hlower.1
          omega
      · split
        · next hupper =>
            have hlow : 65 ≤ c.toNat := hupper.1
            omega
        · exact Nat.lt_irrefl 10
    simp only [digit?, hdigit, Bool.false_eq_true, if_false, if_neg hletter, false_and,
      reduceCtorEq]

theorem digitsFrom?_eq_some_iff {digits : Text} {n m : Nat} :
    digitsFrom? 10 n digits = some m ↔
      (∀ c ∈ digits, c.isDigit = true) ∧
        digits.foldl (fun n c => n * 10 + (c.toNat - 48)) n = m := by
  induction digits generalizing n with
  | nil => simp [digitsFrom?]
  | cons c digits ih =>
      simp [digitsFrom?, Option.bind_eq_some_iff, digit?_eq_some_iff, ih, and_assoc]

theorem le_of_digitsFrom? {base n m : Nat} {s : Text} (hbase : 0 < base)
    (h : digitsFrom? base n s = some m) : n ≤ m := by
  induction s generalizing n with
  | nil =>
      cases h
      exact Nat.le_refl _
  | cons c s ih =>
      rw [digitsFrom?, Option.bind_eq_some_iff] at h
      obtain ⟨d, _, hrest⟩ := h
      calc n ≤ n * base := Nat.le_mul_of_pos_right n hbase
        _ ≤ n * base + d := Nat.le_add_right _ _
        _ ≤ m := ih hrest

theorem eq_of_ofDigits?_eq_one {digits : Text} (h : ofDigits? 10 digits = some 1) :
    ∃ zeros, digits = List.replicate zeros '0' ++ ['1'] := by
  have hfrom : digitsFrom? 10 0 digits = some 1 := by
    cases digits with
    | nil => cases h
    | cons c s => exact h
  clear h
  induction digits with
  | nil => cases hfrom
  | cons c s ih =>
      rw [digitsFrom?, Option.bind_eq_some_iff] at hfrom
      obtain ⟨d, hd, hrest⟩ := hfrom
      rw [Nat.zero_mul, Nat.zero_add] at hrest
      obtain ⟨hdigit, hc⟩ := digit?_eq_some_iff.mp hd
      have hlow : 48 ≤ c.toNat := by
        simp only [Char.isDigit, Bool.and_eq_true, decide_eq_true_eq] at hdigit
        exact hdigit.1
      cases d with
      | zero =>
          obtain ⟨zeros, rfl⟩ := ih hrest
          have hzero : c = '0' :=
            Char.toNat_inj.mp (Nat.le_antisymm (Nat.le_of_sub_eq_zero hc) hlow)
          exact ⟨zeros + 1, by rw [hzero]; rfl⟩
      | succ d =>
          cases s with
          | nil =>
              cases hrest
              have hone : c = '1' := Char.toNat_inj.mp (Nat.eq_add_of_sub_eq hlow hc)
              exact ⟨0, by rw [hone]; rfl⟩
          | cons e s =>
              rw [digitsFrom?, Option.bind_eq_some_iff] at hrest
              obtain ⟨k, _, hlast⟩ := hrest
              have hten := le_of_digitsFrom? (by decide) hlast
              omega

end Text

namespace Markdown

/-- What may stand behind the name of a tag: the end of the line, a space, or a closing bracket. -/
def EndsName (after : Text) : Prop := ∀ c, after.head? = some c → c = ' ' ∨ c = '>'

/-- The elements whose content is taken verbatim. -/
def verbatimElements : List String := ["pre", "style", "script", "textarea"]

/-- What follows the opening angle bracket of an HTML block that can end a paragraph. -/
inductive HtmlStart : Text → Prop where
  | verbatim {tag : String} (htag : tag ∈ verbatimElements) {name after : Text}
      (hname : Html.lowered name = tag.toList) (hafter : EndsName after) : HtmlStart (name ++ after)
  | comment (rest : Text) : HtmlStart ('!' :: '-' :: '-' :: rest)
  | instruction (rest : Text) : HtmlStart ('?' :: rest)
  | declaration {c : Char} (hc : c.isAlpha = true) (rest : Text) : HtmlStart ('!' :: c :: rest)
  | cdata (rest : Text) : HtmlStart ("![CDATA[".toList ++ rest)
  | element {slash : Text} (hslash : slash = [] ∨ slash = ['/']) {tag : String}
      (htag : tag ∈ Html.blockElements) {name after : Text}
      (hname : Html.lowered name = tag.toList)
      (hafter : EndsName after ∨ ['/', '>'] <+: after) : HtmlStart (slash ++ name ++ after)

/-- The lines that end a paragraph before them, or underline it. -/
inductive BlockStart : Text → Prop where
  | thematicBreak {mark : Char} (hmark : mark = '*' ∨ mark = '-' ∨ mark = '_') {rest : Text}
      (hrest : ∀ c ∈ rest, c = mark ∨ c = ' ') (hcount : 3 ≤ (mark :: rest).count mark) :
      BlockStart (mark :: rest)
  | underline {mark : Char} (hmark : mark = '=' ∨ mark = '-') {length : Nat} (hlength : 0 < length)
      (spaces : Nat) : BlockStart (List.replicate length mark ++ List.replicate spaces ' ')
  | heading {level : Nat} (hlow : 1 ≤ level) (hhigh : level ≤ 6) {rest : Text}
      (hrest : ∀ c, rest.head? = some c → c = ' ') : BlockStart (List.replicate level '#' ++ rest)
  | quote (rest : Text) : BlockStart ('>' :: rest)
  | bullet {mark : Char} (hmark : mark = '-' ∨ mark = '+' ∨ mark = '*') {rest : Text}
      (hrest : ∃ c ∈ rest, c ≠ ' ') : BlockStart (mark :: ' ' :: rest)
  | number {digits : Text} (hdigits : digits.length ≤ 9) (hone : Text.ofDigits? 10 digits = some 1)
      {delimiter : Char} (hdelimiter : delimiter = '.' ∨ delimiter = ')') {rest : Text}
      (hrest : ∃ c ∈ rest, c ≠ ' ') : BlockStart (digits ++ delimiter :: ' ' :: rest)
  | backtickFence {length : Nat} (hlength : 3 ≤ length) {info : Text} (hinfo : backtick ∉ info) :
      BlockStart (List.replicate length backtick ++ info)
  | tildeFence (info : Text) : BlockStart (List.replicate 3 '~' ++ info)
  | html {rest : Text} (hrest : HtmlStart rest) : BlockStart ('<' :: rest)

/-! ## Lines without other blanks than spaces -/

theorem isAsciiBlank_of_not_blank {c : Char} (h : isBlank c = false) : isAsciiBlank c = false := by
  rw [← Bool.not_eq_true] at h ⊢
  refine mt (fun hblank => ?_) h
  simp only [isAsciiBlank, isLineBlank, isLineEnd, Bool.or_eq_true, beq_iff_eq] at hblank
  rcases hblank with (((rfl | rfl) | rfl) | rfl) | rfl | rfl <;> rfl

theorem isLineBlank_of_not_blank {c : Char} (h : isBlank c = false) : isLineBlank c = false :=
  (Bool.or_eq_false_iff.mp (isAsciiBlank_of_not_blank h)).1

theorem isLineEnd_of_not_blank {c : Char} (h : isBlank c = false) : isLineEnd c = false :=
  (Bool.or_eq_false_iff.mp (isAsciiBlank_of_not_blank h)).2

/-- The blanks of a line are spaces. -/
def Spaced (s : Text) : Prop := ∀ c ∈ s, isAsciiBlank c = true → c = ' '

namespace Spaced

theorem tail {c : Char} {s : Text} (h : Spaced (c :: s)) : Spaced s :=
  (List.forall_mem_cons.mp h).2

theorem of_append {s t : Text} (h : Spaced (s ++ t)) : Spaced s ∧ Spaced t :=
  List.forall_mem_append.mp h

theorem drop {s : Text} (h : Spaced s) (n : Nat) : Spaced (s.drop n) := fun c hc =>
  h c (List.mem_of_mem_drop hc)

theorem isLineEnd {s : Text} (h : Spaced s) {c : Char} (hc : c ∈ s) : isLineEnd c = false := by
  rw [← Bool.not_eq_true]
  intro hend
  have hspace : c = ' ' := h c hc (by rw [isAsciiBlank, hend, Bool.or_true])
  rw [hspace] at hend
  cases hend

theorem lineEnd?_cons {c : Char} {s : Text} (h : Spaced (c :: s)) : lineEnd? (c :: s) = none := by
  have hc := h.isLineEnd List.mem_cons_self
  unfold lineEnd?
  split
  · next heq => cases heq
  · next heq => cases heq; cases hc
  · next heq => cases heq; cases hc
  · next heq => cases heq; cases hc
  · rfl

theorem blankLine?_eq_some_iff {s : Text} (h : Spaced s) {n : Nat} :
    blankLine? s = some n ↔ (∀ c ∈ s, c = ' ') ∧ s.length = n := by
  induction s generalizing n with
  | nil => exact ⟨fun hn => ⟨by simp, Option.some.inj hn⟩, fun hn => congrArg some hn.2⟩
  | cons c s ih =>
      by_cases hc : isLineBlank c = true
      · have hspace : c = ' ' := h c List.mem_cons_self (by rw [isAsciiBlank, hc, Bool.true_or])
        have hcons : blankLine? (c :: s) = (blankLine? s).map (· + 1) := by
          rw [blankLine?, blankLine?, blankRun, if_pos hc, List.drop_succ_cons, Option.map_map]
          congr 1
          funext k
          exact Nat.add_right_comm _ 1 k
        rw [hcons, Option.map_eq_some_iff, List.forall_mem_cons, List.length_cons]
        constructor
        · rintro ⟨m, hm, rfl⟩
          obtain ⟨hs, rfl⟩ := (ih h.tail).mp hm
          exact ⟨⟨hspace, hs⟩, rfl⟩
        · rintro ⟨⟨_, hs⟩, rfl⟩
          exact ⟨s.length, (ih h.tail).mpr ⟨hs, rfl⟩, rfl⟩
      · have hnot : c ≠ ' ' := by
          rintro rfl
          exact hc rfl
        rw [blankLine?, blankRun, if_neg hc, List.drop_zero, h.lineEnd?_cons, List.forall_mem_cons]
        simp [hnot]

theorem isSome_blankLine?_iff {s : Text} (h : Spaced s) :
    (blankLine? s).isSome ↔ ∀ c ∈ s, c = ' ' := by
  simp [Option.isSome_iff_exists, h.blankLine?_eq_some_iff]

theorem blankTwice_iff {s : Text} (h : Spaced s) : blankTwice s = true ↔ ∀ c ∈ s, c = ' ' := by
  rw [← h.isSome_blankLine?_iff, blankTwice]
  cases hblank : blankLine? s with
  | none => exact Iff.rfl
  | some n =>
      obtain ⟨_, rfl⟩ := h.blankLine?_eq_some_iff.mp hblank
      have hend : isBlankLine (s.drop s.length) = true := by
        rw [List.drop_length]
        rfl
      exact ⟨fun _ => rfl, fun _ => hend⟩

theorem blankTwice_eq_false_iff {s : Text} (h : Spaced s) :
    blankTwice s = false ↔ ∃ c ∈ s, c ≠ ' ' := by
  rw [← Bool.not_eq_true, h.blankTwice_iff]
  simp

end Spaced

theorem throughLineFeed_of_not_mem {s : Text} (h : '\n' ∉ s) : throughLineFeed s = s.length := by
  induction s with
  | nil => rfl
  | cons c s ih =>
      rw [List.mem_cons, not_or] at h
      rw [throughLineFeed, if_neg (Ne.symm h.1), ih h.2, List.length_cons]

/-! ## What the reader finds -/

section Found

variable {line : Text} (hspaced : Spaced line)

theorem isSome_thematicBreak? {mark : Char} (hmark : mark = '*' ∨ mark = '-' ∨ mark = '_')
    {rest : Text} (hrest : ∀ c ∈ rest, c = mark ∨ c = ' ')
    (hcount : 3 ≤ (mark :: rest).count mark) : (thematicBreak? (mark :: rest)).isSome := by
  have hends : ∀ c ∈ mark :: rest, isLineEnd c = false := by
    intro c hc
    have hkind : c = mark ∨ c = ' ' := by
      rcases List.mem_cons.mp hc with rfl | hc
      · exact .inl rfl
      · exact hrest c hc
    rcases hkind with rfl | rfl
    · rcases hmark with rfl | rfl | rfl <;> rfl
    · rfl
  have hmarks : ∀ c ∈ mark :: rest, c = mark ∨ c = ' ' ∨ c = '\t' :=
    List.forall_mem_cons.mpr ⟨.inl rfl, fun c hc => (hrest c hc).imp_right .inl⟩
  exact (thematicBreak?_cons_iff hmark hends).mpr ⟨hmarks, hcount⟩

theorem isSome_underline? {mark : Char} (hmark : mark = '=' ∨ mark = '-') {length : Nat}
    (hlength : 0 < length) (spaces : Nat) :
    (underline? (List.replicate length mark ++ List.replicate spaces ' ')).isSome := by
  have hrun : Text.runLength mark (List.replicate length mark ++ List.replicate spaces ' ') =
      length := by
    rw [Text.runLength_replicate_append, Text.runLength_eq_zero, Nat.add_zero]
    rcases hmark with rfl | rfl <;> simp [List.head?_replicate]
  have hspaces : Spaced (List.replicate spaces ' ') := fun c hc _ => List.eq_of_mem_replicate hc
  obtain ⟨n, rfl⟩ := Nat.exists_eq_add_one_of_ne_zero (Nat.pos_iff_ne_zero.mp hlength)
  have hcons : List.replicate (n + 1) mark ++ List.replicate spaces ' ' =
      mark :: (List.replicate n mark ++ List.replicate spaces ' ') := rfl
  rw [hcons, underline?, if_pos hmark, ← hcons]
  dsimp only
  rw [hrun, List.drop_left' (List.length_replicate), Option.isSome_map,
    hspaces.isSome_blankLine?_iff]
  exact fun c hc => List.eq_of_mem_replicate hc

theorem atxLevel?_append {level : Nat} (hlow : 1 ≤ level) (hhigh : level ≤ 6) {rest : Text}
    (hrest : ∀ c, rest.head? = some c → c = ' ') :
    atxLevel? (List.replicate level '#' ++ rest) = some level := by
  have hrun : Text.runLength '#' (List.replicate level '#' ++ rest) = level := by
    rw [Text.runLength_replicate_append, Text.runLength_eq_zero, Nat.add_zero]
    intro hhash
    cases hrest '#' hhash
  rw [atxLevel?]
  simp only [hrun, List.drop_left' (List.length_replicate)]
  cases rest with
  | nil => simp [hlow, hhigh]
  | cons c rest =>
      have hc : c = ' ' := hrest c rfl
      subst hc
      simp [hlow, hhigh, isAsciiBlank, isLineBlank]

theorem isSome_backtickFence? {length : Nat} (hlength : 3 ≤ length) {info : Text}
    (hinfo : backtick ∉ info) :
    (openingFence? (List.replicate length backtick ++ info)).isSome := by
  have hrun : Text.runLength backtick (List.replicate length backtick ++ info) = length := by
    rw [Text.runLength_replicate_append, Text.runLength_eq_zero, Nat.add_zero]
    exact fun hhead => hinfo (List.mem_of_mem_head? hhead)
  have hline : ∀ n, backtick ∉ info.take n := fun n hmem => hinfo (List.mem_of_mem_take hmem)
  obtain ⟨n, rfl⟩ := Nat.exists_eq_add_of_le' hlength
  have hcons : List.replicate (n + 3) backtick ++ info =
      backtick :: (List.replicate (n + 2) backtick ++ info) := rfl
  rw [hcons, openingFence?, ← hcons]
  simp [hrun, hline]

theorem isSome_tildeFence? (info : Text) :
    (openingFence? (List.replicate 3 '~' ++ info)).isSome := by
  have hrun : 3 ≤ Text.runLength '~' (List.replicate 3 '~' ++ info) := by
    rw [Text.runLength_replicate_append]
    exact Nat.le_add_right 3 _
  have hcons : List.replicate 3 '~' ++ info = '~' :: (List.replicate 2 '~' ++ info) := rfl
  rw [hcons, openingFence?, ← hcons, Option.isSome_ite]
  simp only [hrun, decide_true]
  rfl

include hspaced

theorem BlockStart.of_thematicBreak? (h : (thematicBreak? line).isSome) : BlockStart line := by
  cases line with
  | nil => cases h
  | cons mark rest =>
      have hmark : mark = '*' ∨ mark = '-' ∨ mark = '_' := by
        rw [thematicBreak?] at h
        split at h
        · assumption
        · cases h
      have hends : ∀ c ∈ mark :: rest, isLineEnd c = false := fun c hc => hspaced.isLineEnd hc
      obtain ⟨hall, hcount⟩ := (thematicBreak?_cons_iff hmark hends).mp h
      refine .thematicBreak hmark (fun c hc => ?_) hcount
      rcases hall c (List.mem_cons_of_mem mark hc) with hc' | hc' | rfl
      · exact .inl hc'
      · exact .inr hc'
      · cases hspaced.tail '\t' hc rfl

theorem BlockStart.of_underline? (h : (underline? line).isSome) : BlockStart line := by
  cases line with
  | nil => cases h
  | cons mark rest =>
      rw [underline?] at h
      split at h
      · next hmark =>
          dsimp only at h
          rw [Option.isSome_map, (hspaced.drop _).isSome_blankLine?_iff] at h
          rw [← Text.replicate_runLength_append_drop mark (mark :: rest),
            List.eq_replicate_of_mem h]
          refine .underline hmark ?_ _
          rw [Text.runLength, if_pos rfl]
          exact Nat.succ_pos _
      · cases h

theorem BlockStart.of_atxLevel? (h : (atxLevel? line).isSome) : BlockStart line := by
  rw [atxLevel?, Option.isSome_ite, Bool.and_eq_true, Bool.and_eq_true, decide_eq_true_eq,
    decide_eq_true_eq] at h
  obtain ⟨⟨hseparated, hlow⟩, hhigh⟩ := h
  rw [← Text.replicate_runLength_append_drop '#' line]
  refine .heading hlow hhigh fun c hc => ?_
  obtain ⟨rest, hrest⟩ := List.head?_eq_some_iff.mp hc
  rw [hrest] at hseparated
  have hmem : c ∈ line.drop (Text.runLength '#' line) := by
    rw [hrest]
    exact List.mem_cons_self
  exact hspaced.drop _ c hmem hseparated

theorem BlockStart.of_openingFence? (h : (openingFence? line).isSome) : BlockStart line := by
  cases line with
  | nil => cases h
  | cons mark rest =>
      rw [openingFence?, Option.isSome_ite, Bool.and_eq_true, Bool.and_eq_true, Bool.or_eq_true,
        beq_iff_eq, beq_iff_eq, decide_eq_true_eq, Bool.not_eq_true'] at h
      obtain ⟨⟨hmark, hlength⟩, hinfo⟩ := h
      rw [← Text.replicate_runLength_append_drop mark (mark :: rest)]
      rcases hmark with rfl | rfl
      · obtain ⟨n, hn⟩ := Nat.exists_eq_add_of_le hlength
        rw [hn, ← List.replicate_append_replicate, List.append_assoc]
        exact .tildeFence _
      · refine .backtickFence hlength ?_
        have hbreak : '\n' ∉ (backtick :: rest).drop (Text.runLength backtick (backtick :: rest)) :=
          fun hmem => by cases hspaced.drop _ '\n' hmem rfl
        rw [throughLineFeed_of_not_mem hbreak, List.take_length] at hinfo
        simpa using hinfo

theorem exists_of_startsItem {mark : ListMark} {after : Text}
    (h : startsItem line = some (mark, after)) (hblank : blankTwice after = false) :
    listMark? line = some mark ∧ ∃ rest, line.drop mark.length = ' ' :: rest ∧
      ∃ c ∈ rest, c ≠ ' ' := by
  rw [startsItem] at h
  split at h
  · cases h
  · next hmark =>
      dsimp only at h
      split at h
      · next rest hrest =>
          cases h
          obtain ⟨c, hc, hne⟩ := (hspaced.drop _).blankTwice_eq_false_iff.mp hblank
          rw [hrest, List.mem_cons] at hc
          exact ⟨hmark, rest, hrest, c, hc.resolve_left hne, hne⟩
      · next rest hrest =>
          cases hspaced.drop _ '\t' (by rw [hrest]; exact List.mem_cons_self) rfl
      · rw [Option.ite_none_right_eq_some] at h
        obtain ⟨hend, heq⟩ := h
        cases heq
        obtain ⟨c, hc, _⟩ := (hspaced.drop _).blankTwice_eq_false_iff.mp hblank
        obtain ⟨d, rest, hrest⟩ := List.exists_cons_of_ne_nil (List.ne_nil_of_mem hc)
        have hspaced' := hspaced.drop mark.length
        rw [hrest] at hend hspaced'
        rw [hspaced'.lineEnd?_cons] at hend
        cases hend

end Found

theorem exists_of_listMark? {s : Text} {mark : ListMark} (h : listMark? s = some mark) :
    (mark.number = none ∧ (mark.char = '-' ∨ mark.char = '+' ∨ mark.char = '*') ∧
      s = mark.char :: s.drop mark.length) ∨
    ∃ digits n, digits.length ≤ 9 ∧ (mark.char = '.' ∨ mark.char = ')') ∧
      mark.number = some n ∧ Text.ofDigits? 10 digits = some n ∧
      s = digits ++ mark.char :: s.drop mark.length := by
  cases s with
  | nil => cases h
  | cons c s =>
      rw [listMark?] at h
      split at h
      · next hc =>
          cases h
          exact .inl ⟨rfl, hc, rfl⟩
      · dsimp only at h
        split at h
        · next d rest hrest =>
            rw [Option.ite_none_right_eq_some, Option.some.injEq] at h
            obtain ⟨hcond, rfl⟩ := h
            simp only [Bool.and_eq_true, Bool.or_eq_true, beq_iff_eq, decide_eq_true_eq] at hcond
            obtain ⟨⟨hdelimiter, hlow⟩, hhigh⟩ := hcond
            have hsplit := List.prefix_iff_eq_append.mp
              (List.takeWhile_prefix Char.isDigit (l := c :: s))
            refine .inr ⟨_, _, hhigh, hdelimiter, rfl, ?_, ?_⟩
            · obtain ⟨e, digits, hdigits⟩ :=
                List.exists_cons_of_ne_nil (List.length_pos_iff.mp hlow)
              rw [hdigits, Text.ofDigits?, Text.digitsFrom?_eq_some_iff, ← hdigits]
              exact ⟨fun e he => List.mem_takeWhile_imp he, rfl⟩
            · have htail := congrArg List.tail hrest
              rw [List.tail_drop, List.tail_cons] at htail
              rw [htail, ← hrest, hsplit]
        · cases h

theorem listMark?_bullet {mark : Char} (hmark : mark = '-' ∨ mark = '+' ∨ mark = '*')
    (rest : Text) : listMark? (mark :: rest) = some ⟨mark, none, 1⟩ :=
  if_pos hmark

theorem listMark?_number {digits : Text} (hlength : digits.length ≤ 9) {n : Nat}
    (hn : Text.ofDigits? 10 digits = some n) {delimiter : Char}
    (hdelimiter : delimiter = '.' ∨ delimiter = ')') (rest : Text) :
    listMark? (digits ++ delimiter :: rest) = some ⟨delimiter, some n, digits.length + 1⟩ := by
  cases digits with
  | nil => cases hn
  | cons c digits =>
      rw [Text.ofDigits?, Text.digitsFrom?_eq_some_iff] at hn
      obtain ⟨hdigits, rfl⟩ := hn
      have hc : ¬(c = '-' ∨ c = '+' ∨ c = '*') := by
        have hdigit := hdigits c List.mem_cons_self
        rintro (rfl | rfl | rfl) <;> cases hdigit
      have hstop : ∀ d, (delimiter :: rest).head? = some d → d.isDigit = false := by
        rintro d hd
        cases hd
        rcases hdelimiter with rfl | rfl <;> rfl
      have hrun := takeWhile_append_of_stop hdigits hstop
      rw [List.cons_append, listMark?, if_neg hc, ← List.cons_append]
      dsimp only
      rw [hrun, List.drop_left]
      have hcond : (delimiter == '.' || delimiter == ')') = true := by
        rcases hdelimiter with rfl | rfl <;> rfl
      have hlow : 1 ≤ (c :: digits).length := Nat.le_add_left 1 digits.length
      simp only [hcond, hlow, hlength, decide_true, Bool.and_self, if_true]

theorem itemInterrupts_of_listMark? {s rest : Text} {mark : ListMark}
    (hmark : listMark? s = some mark) (hnumber : mark.number = none ∨ mark.number = some 1)
    (hdrop : s.drop mark.length = ' ' :: rest) (hspaced : Spaced rest)
    (hrest : ∃ c ∈ rest, c ≠ ' ') :
    itemInterrupts true false s = true := by
  have hitem : startsItem s = some (mark, ' ' :: rest) := by
    rw [startsItem, hmark]
    dsimp only
    rw [hdrop]
    rfl
  have hblank : blankTwice (' ' :: rest) = false := by
    rw [Spaced.blankTwice_eq_false_iff (List.forall_mem_cons.mpr ⟨fun _ => rfl, hspaced⟩)]
    obtain ⟨c, hc, hne⟩ := hrest
    exact ⟨c, List.mem_cons_of_mem _ hc, hne⟩
  rw [itemInterrupts, hitem]
  dsimp only
  rw [hblank]
  rcases hnumber with h | h <;> rw [h] <;> rfl

theorem BlockStart.of_itemInterrupts {line : Text} (hspaced : Spaced line)
    (h : itemInterrupts true false line = true) : BlockStart line := by
  rw [itemInterrupts] at h
  split at h
  · cases h
  · next mark after hitem =>
      simp only [Bool.not_true, Bool.false_or, Bool.and_eq_true, Bool.or_eq_true, beq_iff_eq,
        Option.isNone_iff_eq_none, Bool.not_eq_true'] at h
      obtain ⟨hnumber, hblank⟩ := h
      obtain ⟨hmark, rest, hdrop, hrest⟩ := exists_of_startsItem hspaced hitem hblank
      rcases exists_of_listMark? hmark with
        ⟨_, hkind, hline⟩ | ⟨digits, n, hlength, hkind, hn, hdigits, hline⟩
      · rw [hline, hdrop]
        exact .bullet hkind hrest
      · rw [hline, hdrop]
        rw [hn] at hnumber
        have hone : n = 1 := by simpa using hnumber
        exact .number hlength (hone ▸ hdigits) hkind hrest

/-! ## HTML -/

theorem alphanum_of_mem_elements : ∀ tag ∈ verbatimElements ++ Html.blockElements,
    tag.toList ≠ [] ∧ tag.toList.all Char.isAlphanum = true := by
  decide +kernel

theorem isAlphanum_of_toLower {c : Char} (h : c.toLower.isAlphanum = true) :
    c.isAlphanum = true := by
  by_cases hupper : c.val ≥ 'A'.val ∧ c.val ≤ 'Z'.val
  · have hc : c.isUpper = true := decide_eq_true hupper
    have hletter : c.isAlpha = true := Bool.or_eq_true_iff.mpr (.inl hc)
    rw [Char.isAlphanum, hletter, Bool.true_or]
  · have hsame : c.toLower = c := dif_neg hupper
    rwa [hsame] at h

theorem alphanum_of_lowered {tag : String} (htag : tag ∈ verbatimElements ++ Html.blockElements)
    {name : Text} (hname : Html.lowered name = tag.toList) :
    name ≠ [] ∧ ∀ c ∈ name, c.isAlphanum = true := by
  obtain ⟨hne, halnum⟩ := alphanum_of_mem_elements tag htag
  rw [List.all_eq_true] at halnum
  rw [← hname] at hne halnum
  exact ⟨mt (congrArg Html.lowered) hne,
    fun c hc => isAlphanum_of_toLower (halnum c.toLower (List.mem_map_of_mem hc))⟩

theorem not_alphanum_of_endsName {after : Text} (h : EndsName after ∨ ['/', '>'] <+: after) :
    ∀ c, after.head? = some c → c.isAlphanum = false := by
  rintro c hc
  rcases h with h | ⟨rest, rfl⟩
  · rcases h c hc with rfl | rfl <;> rfl
  · cases hc
    rfl

section Html

variable {s : Text} (hspaced : Spaced s)

include hspaced

theorem startsVerbatim_iff {name : Text} :
    Html.startsVerbatim name s = true ↔
      ∃ written after, s = written ++ after ∧ Html.lowered written = name ∧ EndsName after := by
  rw [Html.startsVerbatim, Bool.and_eq_true, beq_iff_eq]
  constructor
  · rintro ⟨hname, hends⟩
    refine ⟨_, _, (List.take_append_drop name.length s).symm, hname, fun c hc => ?_⟩
    obtain ⟨rest, hrest⟩ := List.head?_eq_some_iff.mp hc
    have hmem : c ∈ s.drop name.length := by
      rw [hrest]
      exact List.mem_cons_self
    rw [hrest, Bool.or_eq_true, beq_iff_eq] at hends
    exact hends.imp_left (hspaced.drop _ c hmem)
  · rintro ⟨written, after, rfl, rfl, hends⟩
    have hlength : (Html.lowered written).length = written.length := List.length_map _
    rw [hlength, List.take_left, List.drop_left]
    refine ⟨rfl, ?_⟩
    cases after with
    | nil => rfl
    | cons c after => rcases hends c rfl with rfl | rfl <;> rfl

omit hspaced in
theorem isSome_ending?_iff :
    (Html.ending? s).isSome ↔
      (∃ tag ∈ verbatimElements, Html.startsVerbatim tag.toList s = true) ∨
      ['!', '-', '-'] <+: s ∨ ['?'] <+: s ∨ "![CDATA[".toList <+: s ∨
      ∃ c rest, Char.isAlpha c = true ∧ s = '!' :: c :: rest := by
  simp only [Html.ending?, verbatimElements, apply_ite Option.isSome, Option.isSome_some,
    Bool.if_true_left, Bool.or_eq_true, decide_eq_true_eq, List.isPrefixOf_iff_prefix,
    List.mem_cons, List.not_mem_nil, or_false, exists_eq_or_imp, exists_eq_left, or_assoc]
  iterate 7 apply or_congr_right
  split
  · next c rest => simp
  · next hnot =>
      constructor
      · intro h
        cases h
      · rintro ⟨c, rest, _, rfl⟩
        exact absurd rfl (hnot c rest)

theorem HtmlStart.of_ending? (h : (Html.ending? s).isSome) : HtmlStart s := by
  rcases isSome_ending?_iff.mp h with
    ⟨tag, htag, hstart⟩ | ⟨rest, rfl⟩ | ⟨rest, rfl⟩ | ⟨rest, rfl⟩ | ⟨c, rest, hc, rfl⟩
  · obtain ⟨name, after, rfl, hname, hafter⟩ := (startsVerbatim_iff hspaced).mp hstart
    exact .verbatim htag hname hafter
  · exact .comment rest
  · exact .instruction rest
  · exact .cdata rest
  · exact .declaration hc rest

omit hspaced in
theorem startsBlockElement_slash (h : s.head? ≠ some '/') :
    Html.startsBlockElement ('/' :: s) = Html.startsBlockElement s := by
  conv => rhs; unfold Html.startsBlockElement
  split
  · exact absurd rfl h
  · rfl

/-- What a tag of a block element is written as, behind the slash of a closing one. -/
theorem startsBlockElement_slash_iff :
    Html.startsBlockElement ('/' :: s) = true ↔
      ∃ tag ∈ Html.blockElements, ∃ name after, s = name ++ after ∧
        Html.lowered name = tag.toList ∧ (EndsName after ∨ ['/', '>'] <+: after) := by
  unfold Html.startsBlockElement
  simp only [Bool.and_eq_true, List.any_eq_true, beq_iff_eq]
  constructor
  · rintro ⟨⟨tag, htag, hname⟩, hends⟩
    refine ⟨tag, htag, s.takeWhile Char.isAlphanum, _,
      (List.prefix_iff_eq_append.mp (List.takeWhile_prefix _)).symm, hname.symm, ?_⟩
    split at hends
    · next hnil => exact .inl fun c hc => by rw [hnil] at hc; cases hc
    · next rest hrest => exact .inr ⟨rest, hrest.symm⟩
    · next c rest _ hrest =>
        refine .inl fun d hd => ?_
        rw [hrest] at hd
        cases hd
        have hblank : isAsciiBlank c = true ∨ c = '>' := by
          simp only [Bool.or_eq_true, beq_iff_eq] at hends
          rcases hends with (((rfl | rfl) | rfl) | rfl) | rfl <;> decide
        have hmem : c ∈ s.drop (s.takeWhile Char.isAlphanum).length := by
          rw [hrest]
          exact List.mem_cons_self
        exact hblank.imp_left (hspaced.drop _ c hmem)
  · rintro ⟨tag, htag, name, after, rfl, hname, hafter⟩
    have halnum := (alphanum_of_lowered (List.mem_append_right _ htag) hname).2
    rw [takeWhile_append_of_stop halnum (not_alphanum_of_endsName hafter), List.drop_left]
    refine ⟨⟨tag, htag, hname.symm⟩, ?_⟩
    rcases hafter with hends | ⟨rest, rfl⟩
    · cases after with
      | nil => rfl
      | cons c after => rcases hends c rfl with rfl | rfl <;> rfl
    · rfl

theorem HtmlStart.of_startsBlockElement (h : Html.startsBlockElement s = true) : HtmlStart s := by
  by_cases hslash : s.head? = some '/'
  · obtain ⟨r, rfl⟩ := List.head?_eq_some_iff.mp hslash
    obtain ⟨tag, htag, name, after, rfl, hname, hafter⟩ :=
      (startsBlockElement_slash_iff hspaced.tail).mp h
    exact .element (.inr rfl) htag hname hafter
  · rw [← startsBlockElement_slash hslash] at h
    obtain ⟨tag, htag, name, after, rfl, hname, hafter⟩ :=
      (startsBlockElement_slash_iff hspaced).mp h
    exact .element (.inl rfl) htag hname hafter

/-- The reader starts an HTML block that can end a paragraph exactly where one is written. -/
theorem htmlStart_iff :
    HtmlStart s ↔ (Html.ending? s).isSome ∨ Html.startsBlockElement s = true := by
  constructor
  · intro h
    cases h with
    | @verbatim tag htag name after hname hafter =>
        refine .inl (isSome_ending?_iff.mpr (.inl ⟨tag, htag, ?_⟩))
        exact (startsVerbatim_iff hspaced).mpr ⟨name, after, rfl, hname, hafter⟩
    | comment rest => exact .inl (isSome_ending?_iff.mpr (.inr (.inl ⟨rest, rfl⟩)))
    | instruction rest => exact .inl (isSome_ending?_iff.mpr (.inr (.inr (.inl ⟨rest, rfl⟩))))
    | cdata rest => exact .inl (isSome_ending?_iff.mpr (.inr (.inr (.inr (.inl ⟨rest, rfl⟩)))))
    | @declaration c hc rest =>
        exact .inl (isSome_ending?_iff.mpr (.inr (.inr (.inr (.inr ⟨c, rest, hc, rfl⟩)))))
    | @element slash hslash tag htag name after hname hafter =>
        refine .inr ?_
        obtain ⟨hne, halnum⟩ := alphanum_of_lowered (List.mem_append_right _ htag) hname
        rcases hslash with rfl | rfl
        · obtain ⟨c, name, rfl⟩ := List.exists_cons_of_ne_nil hne
          have hc : (c :: name ++ after).head? ≠ some '/' := by
            rintro heq
            cases heq
            cases halnum '/' List.mem_cons_self
          rw [List.nil_append, ← startsBlockElement_slash hc]
          exact (startsBlockElement_slash_iff hspaced).mpr ⟨tag, htag, _, after, rfl, hname, hafter⟩
        · exact (startsBlockElement_slash_iff hspaced.tail).mpr
            ⟨tag, htag, name, after, rfl, hname, hafter⟩
  · rintro (h | h)
    · exact .of_ending? hspaced h
    · exact .of_startsBlockElement hspaced h

end Html

/-! ## The reader and the lines -/

theorem lineInterrupts_iff {line : Text} (hne : line ≠ []) (hspaced : Spaced line) :
    lineInterrupts true false line = true ↔
      (thematicBreak? line).isSome ∨ (atxLevel? line).isSome ∨ (openingFence? line).isSome ∨
        ['>'] <+: line ∨ itemInterrupts true false line = true ∨
        ∃ rest, line = '<' :: rest ∧ HtmlStart rest := by
  obtain ⟨c, s, rfl⟩ := List.exists_cons_of_ne_nil hne
  have hend : (lineEnd? (c :: s)).isSome = false := by
    rw [hspaced.lineEnd?_cons]
    rfl
  simp only [lineInterrupts, hend, Bool.false_or, Bool.or_eq_true, List.isPrefixOf_iff_prefix,
    or_assoc]
  iterate 5 apply or_congr_right
  split
  · next r heq =>
      cases heq
      simp [htmlStart_iff hspaced.tail]
  · next hnot =>
      constructor
      · intro h
        cases h
      · rintro ⟨rest, heq, _⟩
        exact absurd heq (hnot rest)

/-- The lines that end a paragraph or underline it are those that the reader finds, where no other
blanks than spaces stand in the line. -/
theorem blockStart_iff {line : Text} (hne : line ≠ []) (hspaced : Spaced line) :
    BlockStart line ↔ lineInterrupts true false line = true ∨ (underline? line).isSome := by
  rw [lineInterrupts_iff hne hspaced]
  constructor
  · intro h
    cases h with
    | thematicBreak hmark hrest hcount =>
        exact .inl (.inl (isSome_thematicBreak? hmark hrest hcount))
    | underline hmark hlength spaces => exact .inr (isSome_underline? hmark hlength spaces)
    | heading hlow hhigh hrest =>
        exact .inl (.inr (.inl (Option.isSome_of_eq_some (atxLevel?_append hlow hhigh hrest))))
    | quote rest => exact .inl (.inr (.inr (.inr (.inl ⟨rest, rfl⟩))))
    | @bullet mark hmark rest hrest =>
        exact .inl (.inr (.inr (.inr (.inr (.inl (itemInterrupts_of_listMark?
          (listMark?_bullet hmark _) (.inl rfl) rfl hspaced.tail.tail hrest))))))
    | @number digits hdigits hone delimiter hdelimiter rest hrest =>
        have hdrop : (digits ++ delimiter :: ' ' :: rest).drop (digits.length + 1) =
            ' ' :: rest := by
          rw [← List.drop_drop, List.drop_left]
          rfl
        exact .inl (.inr (.inr (.inr (.inr (.inl (itemInterrupts_of_listMark?
          (listMark?_number hdigits hone hdelimiter _) (.inr rfl) hdrop
          hspaced.of_append.2.tail.tail hrest))))))
    | backtickFence hlength hinfo =>
        exact .inl (.inr (.inr (.inl (isSome_backtickFence? hlength hinfo))))
    | tildeFence info => exact .inl (.inr (.inr (.inl (isSome_tildeFence? info))))
    | @html rest hrest => exact .inl (.inr (.inr (.inr (.inr (.inr ⟨rest, rfl, hrest⟩)))))
  · rintro ((h | h | h | ⟨rest, rfl⟩ | h | ⟨rest, rfl, h⟩) | h)
    · exact .of_thematicBreak? hspaced h
    · exact .of_atxLevel? hspaced h
    · exact .of_openingFence? hspaced h
    · exact .quote rest
    · exact .of_itemInterrupts hspaced h
    · exact .html h
    · exact .of_underline? hspaced h

end Markdown

end Tidymark
