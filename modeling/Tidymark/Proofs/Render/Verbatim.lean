import Tidymark.Proofs.Render.Content

/-!
# Code in the rendered text

The lines of a fenced block stand in the rendered text one after the other,
between its fences.  The cap on runs of blank lines holds for the whole text,
code included, and is all that is done to them.
-/

namespace Tidymark

namespace Text

theorem Ended.exists_lines {s : Text} (hs : Ended s) :
    ∃ ls, (∀ t, lines (s ++ t) = ls ++ lines t) ∧ ls.flatMap words = words s := by
  rcases List.eq_nil_or_concat s with rfl | ⟨r, c, rfl⟩
  · exact ⟨[], fun t => rfl, words_nil.symm⟩
  · rw [List.concat_eq_append] at hs ⊢
    have hc : c = '\n' := hs c List.getLast?_concat
    subst hc
    refine ⟨lines r, fun t => ?_, ?_⟩
    · rw [List.append_assoc, List.singleton_append, lines_append_cons]
    · rw [flatMap_words_lines, words_append_break]

theorem exists_lines_append {t : Text} (ht : ∀ c, t.head? = some c → c = '\n') (s : Text) :
    ∃ ls, lines (s ++ t) = lines s ++ ls := by
  cases t with
  | nil => exact ⟨[], by rw [List.append_nil, List.append_nil]⟩
  | cons c t =>
      have hc : c = '\n' := ht c rfl
      subst hc
      exact ⟨lines t, lines_append_cons s t⟩

end Text

namespace Render

/-! ## Lines of a block -/

/-- The lines of a content, whether or not a line feed ends the last one. -/
def contentLines (content : Text) : List Text :=
  if content = [] then [] else Text.lines (dropFinalBreak content)

theorem lines_ended_append (content t : Text) :
    Text.lines (ended content ++ t) = contentLines content ++ Text.lines t := by
  rw [contentLines]
  split
  · next h =>
      subst h
      rfl
  · next hne =>
      rw [ended, dropFinalBreak]
      split
      · next h =>
          have hlast : content.getLast? = some '\n' := by
            rw [Bool.or_eq_true, List.isEmpty_iff, beq_iff_eq] at h
            exact h.resolve_left hne
          obtain ⟨r, rfl⟩ := List.getLast?_eq_some_iff.mp hlast
          rw [if_pos hlast, List.dropLast_concat, List.append_assoc, List.singleton_append,
            Text.lines_append_cons]
      · next h =>
          have hlast : content.getLast? ≠ some '\n' := by
            intro hlast
            simp [hlast] at h
          rw [if_neg hlast, List.append_assoc, List.singleton_append, Text.lines_append_cons]

theorem break_not_mem_fenceFor (style : FenceStyle) (content : Text) :
    '\n' ∉ fenceFor style content := by
  intro h
  have hchar : '\n' = style.char := List.eq_of_mem_replicate h
  cases style <;> cases hchar

theorem isAllBlank_fenceFor_append (style : FenceStyle) (content s : Text) :
    Text.isAllBlank (fenceFor style content ++ s) = false := by
  obtain ⟨n, hn⟩ : ∃ n, max 3 (longestRun style.char content + 1) = n + 1 :=
    ⟨max 3 (longestRun style.char content + 1) - 1, by omega⟩
  have hchar : isBlank style.char = false := by cases style <;> rfl
  rw [fenceFor, hn, List.replicate_succ, List.cons_append, Text.isAllBlank, List.all_cons, hchar,
    Bool.false_and]

/-- The lines of what is written for a fenced block, and of what comes behind it. -/
theorem lines_fencedCode_append (b : CodeBlock) {tag : Text} {more : List Text}
    (htag : Text.lines b.language = tag :: more) (t : Text) :
    Text.lines (fencedCode b ++ t) =
      (fenceFor b.fence b.content ++ tag) ::
        (more ++ contentLines b.content ++ fenceFor b.fence b.content :: [] :: Text.lines t) := by
  have hfence := break_not_mem_fenceFor b.fence b.content
  have hsplit : fencedCode b ++ t =
      fenceFor b.fence b.content ++ b.language ++ '\n' :: (ended b.content ++
        (fenceFor b.fence b.content ++ '\n' :: '\n' :: t)) := by
    simp [fencedCode]
  rw [hsplit, Text.lines_append_cons, Text.lines_append_of_not_mem hfence htag,
    lines_ended_append, Text.lines_append_break hfence, Text.lines_cons_break]
  simp

/-! ## A block in the text -/

theorem body_append_cons {c : Config} {before after : Document} {n : Node} {s : Text}
    (hs : body c (before ++ n :: after) = .ok s) :
    ∃ p w q, body c before = .ok p ∧ node c n = .ok w ∧ s = p ++ (w ++ q) := by
  induction before generalizing s with
  | nil =>
      obtain ⟨⟨w, hw⟩, q, hq⟩ := exists_ok_append.mp ⟨s, hs⟩
      rw [List.nil_append, body, hw, hq] at hs
      cases hs
      exact ⟨[], w, q, rfl, hw, rfl⟩
  | cons m before ih =>
      rw [List.cons_append] at hs
      obtain ⟨⟨first, hfirst⟩, below, hbelow⟩ := exists_ok_append.mp ⟨s, hs⟩
      rw [body, hfirst, hbelow] at hs
      cases hs
      obtain ⟨p, w, q, hp, hw, rfl⟩ := ih hbelow
      refine ⟨first ++ p, w, q, ?_, hw, by rw [List.append_assoc]⟩
      rw [body, hfirst, hp]
      rfl

/-- The lines of a fenced block among those of the text before it is finished. -/
theorem exists_lines_body {c : Config} {before after : Document} {b : CodeBlock} {s : Text}
    (hs : body c (before ++ .code b :: after) = .ok s) (hfenced : b.fenced = true) {tag : Text}
    {more : List Text} (htag : Text.lines b.language = tag :: more) :
    ∃ front back, front.flatMap Text.words = before.flatMap (Node.contributed c.list) ∧
      Text.lines s = front ++ (fenceFor b.fence b.content ++ tag) ::
        (more ++ contentLines b.content ++ fenceFor b.fence b.content :: back) := by
  obtain ⟨p, w, q, hp, hw, rfl⟩ := body_append_cons hs
  have hcode : w = fencedCode b := by
    rw [node, code, if_pos hfenced] at hw
    cases hw
    rfl
  subst hcode
  have hwrites := writes_body c before hp
  obtain ⟨front, hfront, hwords⟩ := hwrites.ended.exists_lines
  refine ⟨front, [] :: Text.lines q, ?_, ?_⟩
  · rw [hwords, hwrites.words_eq]
  · rw [hfront, lines_fencedCode_append b htag]

theorem head?_ended (c : WhitespaceConfig) {rest : Text}
    (hrest : ∀ a, rest.head? = some a → a = '\n') (a : Char)
    (ha : (Text.dropEndWhile (· == '\n') rest ++
      if c.ensureFinalNewline then ['\n'] else []).head? = some a) : a = '\n' := by
  obtain ⟨dropped, hdropped⟩ := Text.dropEndWhile_prefix (· == '\n') rest
  cases hleft : Text.dropEndWhile (· == '\n') rest with
  | nil =>
      rw [hleft, List.nil_append] at ha
      split at ha
      · cases ha
        rfl
      · cases ha
  | cons b left =>
      rw [hleft] at ha hdropped
      cases ha
      exact hrest a (by rw [← hdropped]; rfl)

/-- The lines up to one that is not blank are out of reach of what is done at the end. -/
theorem lines_finish (c : WhitespaceConfig) {s l : Text} {front back : List Text}
    (hl : Text.isAllBlank l = false)
    (h : BlankLines.kept c.maxBlankLines (Text.lines s) = front ++ l :: back) :
    ∃ back', Text.lines (finish c s) = front ++ l :: back' := by
  have hbreak : ∀ k ∈ front ++ l :: back, '\n' ∉ k := by
    intro k hk
    rw [← h] at hk
    exact Text.not_mem_of_mem_lines ((BlankLines.kept_sublist _ _).subset hk)
  have hne : l ≠ [] := by
    rintro rfl
    cases hl
  have hlines : Text.lines (Text.joinLines (front ++ [l])) = front ++ [l] := by
    refine Text.lines_joinLines (by simp) fun k hk => hbreak k ?_
    rw [List.append_cons]
    exact List.mem_append_left back hk
  obtain ⟨a, ha⟩ : ∃ a, l.getLast? = some a := ⟨l.getLast hne, List.getLast?_eq_some_getLast hne⟩
  have hlast : (Text.joinLines (front ++ [l])).getLast? = some a := by
    rw [Text.getLast?_joinLines hne, ha]
  have hstays : (a == '\n') = false := by
    rw [beq_eq_false_iff_ne]
    rintro rfl
    exact hbreak l (by simp) (List.mem_of_getLast? ha)
  obtain ⟨rest, hrest, hsplit⟩ : ∃ rest : Text, (∀ b, rest.head? = some b → b = '\n') ∧
      BlankLines.normalize c.maxBlankLines s = Text.joinLines (front ++ [l]) ++ rest := by
    rw [BlankLines.normalize_eq, h, List.append_cons]
    cases back with
    | nil => exact ⟨[], by simp, by rw [List.append_nil, List.append_nil]⟩
    | cons k back =>
        refine ⟨'\n' :: Text.joinLines (k :: back), by simp [eq_comm], ?_⟩
        exact Text.joinLines_append (by simp) (List.cons_ne_nil k back)
  have hfinish : finish c s = Text.joinLines (front ++ [l]) ++
      (Text.dropEndWhile (· == '\n') rest ++ if c.ensureFinalNewline then ['\n'] else []) := by
    rw [finish, hsplit, Text.dropEndWhile_append hlast hstays]
    split
    · rw [List.append_assoc]
    · rw [List.append_nil]
  obtain ⟨back', hback⟩ := Text.exists_lines_append (head?_ended c hrest)
    (Text.joinLines (front ++ [l]))
  refine ⟨back', ?_⟩
  rw [hfinish, hback, hlines, List.append_assoc, List.singleton_append]

end Render

/-- A code block in a well-shaped document is a root of it. -/
theorem Document.WellShaped.mem_of_code {d : Document} (h : d.WellShaped) {b : CodeBlock}
    (hb : ∃ p ∈ d.preorder, p.node = .code b) : Node.code b ∈ d := by
  obtain ⟨p, hp, hcode⟩ := hb
  have hroot := h.root_or_kind hp
  rw [hcode] at hroot
  rcases hroot with hroot | hkind | hkind
  · exact hroot
  · cases hkind
  · cases hkind

/-- The lines of a fenced block stand together in the rendered text, behind what is written for the
nodes before it: an opening line of the fence and the language, the lines of the content and a
closing line of the fence.  Runs of blank lines among them are cut to the cap, if there is one, and
nothing else is changed.  A language of several lines has the others in front of the content. -/
theorem Document.fenced_lines_render {c : Config} {d : Document} {t : Text}
    (ht : d.render c = .ok t) {b : CodeBlock} (hb : ∃ p ∈ d.preorder, p.node = .code b)
    (hfenced : b.fenced = true) :
    ∃ tag more shown, Text.lines b.language = tag :: more ∧
      (∀ cap : Nat, c.whitespace.maxBlankLines = cap →
        BlankLines.Capped cap (more ++ Render.contentLines b.content) shown) ∧
      (shown = more ++ Render.contentLines b.content ↔
        ∀ cap : Nat, c.whitespace.maxBlankLines = cap →
          BlankLines.Fits cap (more ++ Render.contentLines b.content)) ∧
      .code b ∈ d ∧ ∀ before after, d = before ++ .code b :: after →
        ∃ front back, front.flatMap Text.words = before.flatMap (Node.contributed c.list) ∧
          Text.lines t = front ++ (Render.fenceFor b.fence b.content ++ tag) ::
            (shown ++ Render.fenceFor b.fence b.content :: back) := by
  have hrenderable := (Document.exists_render_iff c d).mp ⟨t, ht⟩
  obtain ⟨tag, more, htag⟩ := List.exists_cons_of_ne_nil (Text.lines_ne_nil b.language)
  have hopening := Render.isAllBlank_fenceFor_append b.fence b.content tag
  have hclosing := Render.isAllBlank_fenceFor_append b.fence b.content []
  rw [List.append_nil] at hclosing
  refine ⟨tag, more, BlankLines.kept c.whitespace.maxBlankLines
    (more ++ Render.contentLines b.content), htag, ?_, BlankLines.kept_eq_self_iff _ _,
    hrenderable.toWellShaped.mem_of_code hb, ?_⟩
  · intro cap hcap
    rw [hcap]
    exact BlankLines.capped_kept _
  · rintro before after rfl
    obtain ⟨s, hbody, rfl⟩ := Document.exists_of_render ht
    obtain ⟨front, back, hwords, hlines⟩ := Render.exists_lines_body hbody hfenced htag
    have hkept : BlankLines.kept c.whitespace.maxBlankLines (Text.lines s) =
        (BlankLines.kept c.whitespace.maxBlankLines front ++
          (Render.fenceFor b.fence b.content ++ tag) ::
            BlankLines.kept c.whitespace.maxBlankLines (more ++ Render.contentLines b.content)) ++
          Render.fenceFor b.fence b.content :: BlankLines.kept c.whitespace.maxBlankLines back := by
      rw [hlines, BlankLines.kept_append_line hopening, BlankLines.kept_append_line hclosing,
        List.append_assoc, List.cons_append]
    obtain ⟨back', hfinish⟩ := Render.lines_finish c.whitespace hclosing hkept
    refine ⟨BlankLines.kept c.whitespace.maxBlankLines front, back', ?_, ?_⟩
    · rw [BlankLines.words_kept, hwords]
    · rw [hfinish, List.append_assoc, List.cons_append]

/-- Under a cap of two a run of three blank lines is cut. -/
theorem Document.fenced_lines_render_two :
    ∃ t shown front back, Document.render {} [.paragraph ['p'],
        .code ⟨['c'], "a\n\n\n\nb\n".toList, true, .tildes⟩] = .ok t ∧
      BlankLines.Capped 2 [['a'], [], [], [], ['b']] shown ∧
      shown ≠ [['a'], [], [], [], ['b']] ∧
      front.flatMap Text.words = [['p']] ∧
      Text.lines t = front ++ "~~~c".toList :: (shown ++ "~~~".toList :: back) := by
  have hrender : Document.render {} [.paragraph ['p'],
      .code ⟨['c'], "a\n\n\n\nb\n".toList, true, .tildes⟩] =
        .ok "p\n\n~~~c\na\n\n\nb\n~~~\n".toList := ok_of_toOption (by decide +kernel)
  obtain ⟨tag, more, shown, htag, hcapped, hverbatim, _, hplace⟩ :=
    Document.fenced_lines_render hrender ⟨_, List.mem_cons_of_mem _ List.mem_cons_self, rfl⟩ rfl
  cases htag
  obtain ⟨front, back, hwords, hlines⟩ := hplace [.paragraph ['p']] [] rfl
  refine ⟨_, shown, front, back, hrender, hcapped 2 rfl, fun hshown => ?_, ?_, hlines⟩
  · have hfits := hverbatim.mp hshown 2 rfl [[], [], []] (by decide +kernel) (by decide)
    exact absurd hfits (by decide)
  · rw [hwords]
    decide +kernel

/-- The lines of a content need not stand together in the rendered text: the cap may cut a run of
blank lines among them. -/
theorem Document.fenced_content_not_verbatim :
    ¬∀ (c : Config) (d : Document) (t : Text) (b : CodeBlock), d.render c = .ok t →
      (∃ p ∈ d.preorder, p.node = .code b) → b.fenced = true →
      Render.contentLines b.content <:+: Text.lines t := by
  intro h
  have hrender : Document.render {} [.code ⟨[], "a\n\n\n\nb\n".toList, true, .tildes⟩] =
      .ok "~~~\na\n\n\nb\n~~~\n".toList := ok_of_toOption (by decide +kernel)
  have hinfix := h _ _ _ ⟨[], "a\n\n\n\nb\n".toList, true, .tildes⟩ hrender
    ⟨_, List.mem_cons_self, rfl⟩ rfl
  revert hinfix
  decide +kernel

end Tidymark
