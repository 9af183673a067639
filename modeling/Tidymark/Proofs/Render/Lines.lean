import Tidymark.Proofs.Render.Verbatim

/-!
# Lines of the rendered text

What is done to the whole text takes away blank lines only.  The lines that
are not blank stay as they are written, a run of blank lines between two of
them is cut to the cap, and the text ends as the configuration says.
-/

namespace Tidymark

namespace Text

/-- The lines of a text that are not blank. -/
def shown (s : Text) : List Text := (lines s).filter (!isAllBlank ·)

theorem shown_line {l : Text} (hl : '\n' ∉ l) (hblank : isAllBlank l = false) :
    shown l = [l] := by
  rw [shown, lines_of_not_mem hl, List.filter_cons_of_pos (by simp [hblank]), List.filter_nil]

theorem shown_append_break (s t : Text) : shown (s ++ '\n' :: t) = shown s ++ shown t := by
  rw [shown, lines_append_cons, List.filter_append]
  rfl

theorem shown_append_of_ended {s : Text} (hs : Ended s) (t : Text) :
    shown (s ++ t) = shown s ++ shown t := by
  obtain ⟨ls, hls, _⟩ := hs.exists_lines
  have hlines : lines s = ls ++ [[]] := by
    have hnil := hls []
    rwa [List.append_nil] at hnil
  have hempty : List.filter (!isAllBlank ·) [([] : Text)] = [] := rfl
  rw [shown, shown, hls, hlines, List.filter_append, List.filter_append, hempty, List.append_nil]
  rfl

theorem shown_flatMap_append {ls : List Text} (hls : ∀ l ∈ ls, '\n' ∉ l) (s : Text) :
    shown (ls.flatMap (· ++ ['\n']) ++ s) = ls.filter (!isAllBlank ·) ++ shown s := by
  induction ls with
  | nil => rfl
  | cons l ls ih =>
      rw [List.forall_mem_cons] at hls
      rw [List.flatMap_cons, List.append_assoc, List.append_assoc, List.singleton_append,
        shown_append_break, ih hls.2, shown, lines_of_not_mem hls.1, List.filter_cons,
        List.filter_cons]
      split
      · rfl
      · rfl

theorem shown_append_of_breaks (s : Text) {t : Text} (ht : ∀ c ∈ t, c = '\n') :
    shown (s ++ t) = shown s := by
  induction t generalizing s with
  | nil => rw [List.append_nil]
  | cons c t ih =>
      rw [List.forall_mem_cons] at ht
      obtain ⟨rfl, ht⟩ := ht
      have htail : shown t = [] := ih [] ht
      rw [shown_append_break, htail, List.append_nil]

/-- A text that starts with no blank starts with its first line that is not blank. -/
theorem exists_shown_cons {a : Char} (ha : isBlank a = false) (s : Text) :
    ∃ l ls, shown (a :: s) = (a :: l) :: ls := by
  have hbreak : a ≠ '\n' := by
    rintro rfl
    cases ha
  obtain ⟨l, ls, hs⟩ := List.exists_cons_of_ne_nil (lines_ne_nil s)
  refine ⟨l, ls.filter (!isAllBlank ·), ?_⟩
  rw [shown, lines_cons hbreak, hs, consFirst, List.filter_cons_of_pos (by simp [isAllBlank, ha])]

end Text

namespace BlankLines

theorem lines_normalize {cap : Int} {s : Text} (h : kept cap (Text.lines s) ≠ []) :
    Text.lines (normalize cap s) = kept cap (Text.lines s) := by
  rw [normalize_eq, Text.lines_joinLines h]
  intro l hl
  exact Text.not_mem_of_mem_lines ((kept_sublist cap _).subset hl)

theorem shown_normalize (cap : Int) (s : Text) : Text.shown (normalize cap s) = Text.shown s := by
  have hfilter := filter_kept cap (Text.lines s)
  by_cases h : kept cap (Text.lines s) = []
  · rw [h] at hfilter
    rw [normalize_eq, h, Text.shown, Text.shown, ← hfilter]
    rfl
  · rw [Text.shown, lines_normalize h, hfilter, Text.shown]

end BlankLines

namespace Render

/-! ## The end of the text -/

/-- Line feeds are dropped at the end, and one is put there if that is configured. -/
theorem exists_finish (c : WhitespaceConfig) (s : Text) :
    ∃ x breaks, x.getLast? ≠ some '\n' ∧ (∀ a ∈ breaks, a = '\n') ∧
      BlankLines.normalize c.maxBlankLines s = x ++ breaks ∧
      finish c s = if c.ensureFinalNewline then x ++ ['\n'] else x := by
  obtain ⟨breaks, hbreaks, hsplit⟩ := Text.exists_eq_dropEndWhile_append (· == '\n')
    (BlankLines.normalize c.maxBlankLines s)
  refine ⟨_, breaks, ?_, ?_, hsplit, rfl⟩
  · intro hlast
    have hfalse := Text.getLast?_dropEndWhile hlast
    cases hfalse
  · intro a ha
    exact beq_iff_eq.mp (hbreaks a ha)

/-- A finished text shows the lines that it showed before. -/
theorem shown_finish (c : WhitespaceConfig) (s : Text) :
    Text.shown (finish c s) = Text.shown s := by
  obtain ⟨x, breaks, _, hbreaks, hsplit, hfinish⟩ := exists_finish c s
  have hx : Text.shown x = Text.shown s := by
    rw [← BlankLines.shown_normalize c.maxBlankLines s, hsplit,
      Text.shown_append_of_breaks x hbreaks]
  rw [hfinish]
  split
  · rw [Text.shown_append_of_breaks x (by simp), hx]
  · exact hx

theorem contentLines_append_break (x : Text) : contentLines (x ++ ['\n']) = Text.lines x := by
  rw [contentLines, if_neg (by simp), dropFinalBreak, if_pos List.getLast?_concat,
    List.dropLast_concat]

theorem contentLines_of_getLast? {x : Text} (hne : x ≠ []) (hlast : x.getLast? ≠ some '\n') :
    contentLines x = Text.lines x := by
  rw [contentLines, if_neg hne, dropFinalBreak, if_neg hlast]

theorem contentLines_finish_prefix {c : WhitespaceConfig} {s : Text}
    (hshown : Text.shown (finish c s) ≠ []) :
    contentLines (finish c s) <+: BlankLines.kept c.maxBlankLines (Text.lines s) := by
  obtain ⟨x, breaks, hlast, hbreaks, hsplit, hfinish⟩ := exists_finish c s
  have hne : x ≠ [] := by
    rintro rfl
    apply hshown
    rw [hfinish]
    split <;> rfl
  have hcontent : contentLines (finish c s) = Text.lines x := by
    rw [hfinish]
    split
    · exact contentLines_append_break x
    · exact contentLines_of_getLast? hne hlast
  have hkept : BlankLines.kept c.maxBlankLines (Text.lines s) ≠ [] := by
    intro hnil
    rw [BlankLines.normalize_eq, hnil] at hsplit
    exact hne (List.append_eq_nil_iff.mp hsplit.symm).1
  have hhead : ∀ a, breaks.head? = some a → a = '\n' := by
    intro a ha
    exact hbreaks a (List.mem_of_head? ha)
  obtain ⟨ls, hls⟩ := Text.exists_lines_append hhead x
  refine ⟨ls, ?_⟩
  rw [hcontent, ← hls, ← hsplit, BlankLines.lines_normalize hkept]

/-- No run of blank lines in a finished text that shows any line is longer than the cap. -/
theorem fits_contentLines_finish {c : WhitespaceConfig} {s : Text} {cap : Nat}
    (hcap : c.maxBlankLines = cap) (hshown : Text.shown (finish c s) ≠ []) :
    BlankLines.Fits cap (contentLines (finish c s)) := by
  have hprefix := contentLines_finish_prefix hshown
  have hkept := BlankLines.fits_keep cap (Text.lines s)
  rw [hcap] at hprefix
  exact hkept.of_infix hprefix.isInfix

/-! ## Runs of blank lines -/

/-- Of a run of blank lines between two others the cap leaves the first lines, and on both sides
the lines that are not blank stay. -/
theorem exists_lines_finish (c : WhitespaceConfig) {s l l' : Text} {front run back : List Text}
    (hlines : Text.lines s = front ++ l :: (run ++ l' :: back))
    (hl : Text.isAllBlank l = false) (hl' : Text.isAllBlank l' = false)
    (hrun : ∀ k ∈ run, Text.isAllBlank k = true) :
    ∃ front' back',
      Text.lines (finish c s) =
        front' ++ l :: (BlankLines.cut c.maxBlankLines run ++ l' :: back') ∧
      front'.filter (!Text.isAllBlank ·) = front.filter (!Text.isAllBlank ·) ∧
      back'.filter (!Text.isAllBlank ·) = back.filter (!Text.isAllBlank ·) := by
  have hkept : BlankLines.kept c.maxBlankLines (Text.lines s) =
      (BlankLines.kept c.maxBlankLines front ++
        l :: BlankLines.cut c.maxBlankLines run) ++
          l' :: BlankLines.kept c.maxBlankLines back := by
    rw [hlines, BlankLines.kept_append_line hl, BlankLines.kept_append_line hl',
      BlankLines.kept_of_blanks hrun, List.append_assoc, List.cons_append]
  obtain ⟨back', hback⟩ := lines_finish c hl' hkept
  have hfront := BlankLines.filter_kept c.maxBlankLines front
  refine ⟨_, back', by rw [hback, List.append_assoc, List.cons_append], hfront, ?_⟩
  have hcut : (BlankLines.cut c.maxBlankLines run).filter (!Text.isAllBlank ·) =
      run.filter (!Text.isAllBlank ·) := by
    rw [← BlankLines.kept_of_blanks hrun, BlankLines.filter_kept]
  have hshown := shown_finish c s
  rw [Text.shown, Text.shown, hback, hlines] at hshown
  simpa [List.filter_append, List.filter_cons, hl, hl', hfront, hcut] using hshown

end Render

/-- A rendered text ends in a line feed exactly if that is configured, and never in two.  Beside
blank lines it holds the lines that its nodes write, and no others, in order.  A run of blank lines
between two of them is cut to the cap, and if there are any, no run in the text is longer than the
cap. -/
theorem Document.blank_lines_capped {c : Config} {d : Document} {t : Text}
    (h : d.render c = .ok t) :
    ∃ b x, Render.body c d = .ok b ∧
      (x.getLast? ≠ some '\n' ∧ t = if c.whitespace.ensureFinalNewline then x ++ ['\n'] else x) ∧
      (∀ cap : Nat, c.whitespace.maxBlankLines = cap →
        (∃ l ∈ Text.lines t, Text.isAllBlank l = false) →
        BlankLines.Fits cap (Render.contentLines t)) ∧
      (Text.lines t).filter (!Text.isAllBlank ·) = (Text.lines b).filter (!Text.isAllBlank ·) ∧
      ∀ front l run l' back, Text.lines b = front ++ l :: (run ++ l' :: back) →
        Text.isAllBlank l = false → Text.isAllBlank l' = false →
        (∀ k ∈ run, Text.isAllBlank k = true) →
        ∃ front' back',
          Text.lines t =
            front' ++ l :: (BlankLines.cut c.whitespace.maxBlankLines run ++ l' :: back') ∧
          front'.filter (!Text.isAllBlank ·) = front.filter (!Text.isAllBlank ·) ∧
          back'.filter (!Text.isAllBlank ·) = back.filter (!Text.isAllBlank ·) := by
  obtain ⟨b, hbody, rfl⟩ := Document.exists_of_render h
  obtain ⟨x, _, hlast, _, _, hfinish⟩ := Render.exists_finish c.whitespace b
  refine ⟨b, x, hbody, ⟨hlast, hfinish⟩, ?_, Render.shown_finish c.whitespace b, ?_⟩
  · rintro cap hcap ⟨l, hl, hblank⟩
    apply Render.fits_contentLines_finish hcap
    apply List.ne_nil_of_mem (a := l)
    exact List.mem_filter.mpr ⟨hl, by simp [hblank]⟩
  · intro front l run l' back hlines hl hl' hrun
    exact Render.exists_lines_finish c.whitespace hlines hl hl' hrun

/-- Under a cap of one the first of two blank lines stays, with the space in it. -/
theorem Document.blank_lines_capped_one :
    ∃ t x front back, Document.render { whitespace := { maxBlankLines := 1 } }
        [.code ⟨[], "a\n \n\nb".toList, true, .backticks⟩] = .ok t ∧
      x.getLast? ≠ some '\n' ∧ t = x ++ ['\n'] ∧
      BlankLines.Fits 1 (Render.contentLines t) ∧
      Text.lines t = front ++ ['a'] :: ([[' ']] ++ ['b'] :: back) := by
  have hbody : Render.body { whitespace := { maxBlankLines := 1 } }
      [.code ⟨[], "a\n \n\nb".toList, true, .backticks⟩] =
        .ok "```\na\n \n\nb\n```\n\n".toList := ok_of_toOption (by decide +kernel)
  have hrender : Document.render { whitespace := { maxBlankLines := 1 } }
      [.code ⟨[], "a\n \n\nb".toList, true, .backticks⟩] =
        .ok "```\na\n \nb\n```\n".toList := ok_of_toOption (by decide +kernel)
  obtain ⟨b, x, hb, ⟨hlast, hx⟩, hfits, _, hrun⟩ := Document.blank_lines_capped hrender
  rw [hbody] at hb
  cases hb
  obtain ⟨front, back, hlines, _⟩ := hrun ["```".toList] ['a'] [[' '], []] ['b']
    ["```".toList, [], []] (by decide +kernel) rfl rfl (by decide)
  exact ⟨_, x, front, back, hrender, hlast, hx,
    hfits 1 rfl ⟨['a'], by decide +kernel, rfl⟩, hlines⟩

end Tidymark
