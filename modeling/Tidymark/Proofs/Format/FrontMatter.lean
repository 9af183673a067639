import Tidymark.Proofs.Format.Failures
import Tidymark.Proofs.Text.EndedLines

/-!
# Front matter is kept

Front matter is a block of lines between two fences.  Cut off a source and put
in front of a formatted body, it is found again at the same closing fence,
whatever the body is.
-/

namespace Tidymark

namespace FrontMatter

/-! ## Cutting a block off -/

def Opens (first : Text) : Prop := first = fence ++ ['\n'] ∨ first = fence ++ ['\r', '\n']

theorem opening?_eq_some_iff {s first rest : Text} :
    opening? s = some (first, rest) ↔ Opens first ∧ s = first ++ rest := by
  constructor
  · intro h
    rw [opening?] at h
    split at h
    · next rest' hafter =>
        cases h
        exact ⟨.inl rfl, Text.after?_eq_some_iff.mp hafter⟩
    · obtain ⟨rest', hafter, heq⟩ := Option.map_eq_some_iff.mp h
      cases heq
      exact ⟨.inr rfl, Text.after?_eq_some_iff.mp hafter⟩
  · rintro ⟨rfl | rfl, rfl⟩
    · rfl
    · rfl

theorem opening?_eq_none_iff {s : Text} :
    opening? s = none ↔ ∀ first rest, Opens first → s ≠ first ++ rest := by
  rw [Option.eq_none_iff_forall_ne_some]
  constructor
  · intro h first rest hfirst hs
    exact h (first, rest) (opening?_eq_some_iff.mpr ⟨hfirst, hs⟩)
  · rintro h ⟨first, rest⟩ hs
    obtain ⟨hfirst, hs⟩ := opening?_eq_some_iff.mp hs
    exact h first rest hfirst hs

theorem closing?_append {before : List Text} (hbefore : ∀ l ∈ before, Text.trimEnd l ≠ fence)
    {line : Text} (hline : Text.trimEnd line = fence) (block : Text) (after : List Text) :
    closing? block (before ++ line :: after) =
      some (block ++ before.flatten ++ line, after.flatten) := by
  induction before generalizing block with
  | nil => rw [List.nil_append, closing?, if_pos hline, List.flatten_nil, List.append_nil]
  | cons l before ih =>
      rw [List.forall_mem_cons] at hbefore
      rw [List.cons_append, closing?, if_neg hbefore.1, ih hbefore.2, List.flatten_cons,
        List.append_assoc block l]

theorem exists_of_closing? {block closed rest : Text} {ls : List Text}
    (h : closing? block ls = some (closed, rest)) :
    ∃ before line after, ls = before ++ line :: after ∧ (∀ l ∈ before, Text.trimEnd l ≠ fence) ∧
      Text.trimEnd line = fence ∧ closed = block ++ before.flatten ++ line ∧
      rest = after.flatten := by
  induction ls generalizing block with
  | nil => cases h
  | cons l ls ih =>
      rw [closing?] at h
      split at h
      · next hl =>
          cases h
          exact ⟨[], l, ls, rfl, by simp, hl, by simp, rfl⟩
      · next hl =>
          obtain ⟨before, line, after, rfl, hbefore, hline, rfl, rfl⟩ := ih h
          exact ⟨l :: before, line, after, rfl, List.forall_mem_cons.mpr ⟨hl, hbefore⟩, hline,
            by simp, rfl⟩

theorem closing?_eq_none_iff {block : Text} {ls : List Text} :
    closing? block ls = none ↔ ∀ l ∈ ls, Text.trimEnd l ≠ fence := by
  induction ls generalizing block with
  | nil => simp [closing?]
  | cons l ls ih =>
      rw [closing?, List.forall_mem_cons, ← @ih (block ++ l)]
      split
      · next hl => simp [hl]
      · next hl => simp [hl]

/-- A text without front matter is all body. -/
theorem split_of_fst_eq_none {s : Text} (h : (split s).1 = none) : split s = (none, s) := by
  rw [split] at h ⊢
  cases hopening : opening? s with
  | none => rfl
  | some cut =>
      obtain ⟨first, rest⟩ := cut
      rw [hopening] at h
      dsimp only at h ⊢
      cases hclosing : closing? first (Text.endedLines rest) with
      | none => rfl
      | some found =>
          rw [hclosing] at h
          cases h

/-- There is no front matter exactly if no line behind an opening line is a fence up to its
trailing blanks. -/
theorem split_eq_none_iff {s : Text} :
    split s = (none, s) ↔
      ∀ first rest, Opens first → s = first ++ rest →
        ∀ l ∈ Text.endedLines rest, Text.trimEnd l ≠ fence := by
  cases hopening : opening? s with
  | none =>
      rw [split, hopening]
      refine ⟨fun _ first rest hfirst hs => ?_, fun _ => rfl⟩
      exact absurd hs (opening?_eq_none_iff.mp hopening first rest hfirst)
  | some cut =>
      obtain ⟨first, rest⟩ := cut
      obtain ⟨hfirst, hs⟩ := opening?_eq_some_iff.mp hopening
      have honly : ∀ first' rest', Opens first' → s = first' ++ rest' → rest' = rest := by
        intro first' rest' hfirst' hs'
        have hopening' := opening?_eq_some_iff.mpr ⟨hfirst', hs'⟩
        rw [hopening] at hopening'
        cases hopening'
        rfl
      rw [split, hopening]
      dsimp only
      cases hclosing : closing? first (Text.endedLines rest) with
      | none =>
          refine ⟨fun _ first' rest' hfirst' hs' => ?_, fun _ => rfl⟩
          rw [honly first' rest' hfirst' hs']
          exact closing?_eq_none_iff.mp hclosing
      | some found =>
          constructor
          · intro h
            cases h
          · intro h
            have hnone : closing? first (Text.endedLines rest) = none :=
              closing?_eq_none_iff.mpr (h first rest hfirst hs)
            rw [hclosing] at hnone
            cases hnone

theorem trimEnd_append_fence (s : Text) {gap : Text} (hgap : Text.isAllBlank gap = true) :
    Text.trimEnd (s ++ fence ++ gap) = s ++ fence := by
  have hlast : (s ++ fence).getLast? = some '-' := by
    rw [List.getLast?_append]
    rfl
  have hgap' : ∀ c ∈ gap, isBlank c = true := List.all_eq_true.mp hgap
  rw [Text.trimEnd, Text.dropEndWhile_append hlast rfl, Text.dropEndWhile_of_all hgap',
    List.append_nil]

theorem trimEnd_eq_fence_iff {line : Text} :
    Text.trimEnd line = fence ↔ ∃ gap, Text.isAllBlank gap = true ∧ line = fence ++ gap := by
  constructor
  · intro h
    obtain ⟨gap, hgap, hline⟩ := Text.exists_eq_dropEndWhile_append isBlank line
    rw [← Text.trimEnd, h] at hline
    exact ⟨gap, List.all_eq_true.mpr hgap, hline⟩
  · rintro ⟨gap, hgap, rfl⟩
    exact trimEnd_append_fence [] hgap

/-! ## Blocks -/

/-- A block of front matter: the line that opens it, and the lines between that and its closing
fence. -/
structure Block where
  first : Text
  inner : List Text
  opens : Opens first
  ended : ∀ l ∈ inner, Text.EndedLine l
  not_closing : ∀ l ∈ inner, Text.trimEnd l ≠ fence

namespace Block

def text (b : Block) : Text := b.first ++ b.inner.flatten ++ fence

/-- A block is cut off in front of any text that leaves its closing fence alone on its line. -/
theorem split_text_append (b : Block) {behind gap : Text} {after : List Text}
    (hbehind : Text.endedLines (fence ++ behind) = (fence ++ gap) :: after)
    (hgap : Text.isAllBlank gap = true) :
    split (b.text ++ behind) = (some b.text, after.flatten) := by
  have hopening : opening? (b.text ++ behind) =
      some (b.first, b.inner.flatten ++ (fence ++ behind)) := by
    refine opening?_eq_some_iff.mpr ⟨b.opens, ?_⟩
    rw [text, List.append_assoc, List.append_assoc]
  have hclosing := closing?_append b.not_closing (trimEnd_eq_fence_iff.mpr ⟨gap, hgap, rfl⟩)
    b.first after
  rw [split, hopening]
  dsimp only
  rw [Text.endedLines_append_lines b.ended, hbehind, hclosing]
  dsimp only
  rw [← List.append_assoc, trimEnd_append_fence _ hgap, text]

/-- What is cut off is a block, and only blanks are lost behind it. -/
theorem exists_of_split {s f body : Text} (h : split s = (some f, body)) :
    ∃ (b : Block) (gap : Text), Text.isAllBlank gap = true ∧ f = b.text ∧
      s = b.text ++ gap ++ body := by
  rw [split] at h
  split at h
  · cases h
  · next first rest hopening =>
      split at h
      · next closed body' hclosing =>
          cases h
          obtain ⟨hfirst, rfl⟩ := opening?_eq_some_iff.mp hopening
          obtain ⟨before, line, after, hlines, hbefore, hline, rfl, rfl⟩ :=
            exists_of_closing? hclosing
          obtain ⟨gap, hgap, rfl⟩ := trimEnd_eq_fence_iff.mp hline
          have hrest : rest = before.flatten ++ (fence ++ gap ++ after.flatten) := by
            rw [← Text.flatten_endedLines rest, hlines, List.flatten_append, List.flatten_cons]
          refine ⟨⟨first, before, hfirst, Text.endedLine_of_endedLines hlines, hbefore⟩, gap, hgap,
            ?_, ?_⟩
          · rw [← List.append_assoc, trimEnd_append_fence _ hgap, text]
          · have hsource : first ++ rest =
                first ++ before.flatten ++ fence ++ gap ++ after.flatten := by
              rw [hrest]
              simp
            exact hsource
      · cases h

theorem trimStart_of_isAllBlank {s : Text} (hs : Text.isAllBlank s = true) :
    Text.trimStart s = [] :=
  List.dropWhile_eq_nil_iff.mpr (List.all_eq_true.mp hs)

/-- A block put in front of a body is found again, and of the body only blanks at its start are
lost. -/
theorem exists_split_attach (b : Block) (body : Text) :
    ∃ rest, split (attach (some b.text) body) = (some b.text, rest) ∧
      Text.trimStart rest = Text.trimStart body := by
  rw [attach]
  split
  · next hblank =>
      have hfence : '\n' ∉ fence ∧ fence ≠ [] := by decide
      obtain ⟨gap, after, hlines⟩ := Text.exists_endedLines_append hfence.1 hfence.2 body
      have hbody : body = gap ++ after.flatten := by
        have hflatten := Text.flatten_endedLines (fence ++ body)
        rw [hlines, List.flatten_cons, List.append_assoc] at hflatten
        exact (List.append_cancel_left hflatten).symm
      have hparts : Text.isAllBlank gap = true ∧ Text.isAllBlank after.flatten = true := by
        rwa [hbody, Text.isAllBlank, List.all_append, Bool.and_eq_true] at hblank
      refine ⟨after.flatten, b.split_text_append hlines hparts.1, ?_⟩
      rw [trimStart_of_isAllBlank hparts.2, trimStart_of_isAllBlank hblank]
  · have hline : Text.EndedLine (fence ++ ['\n']) := ⟨fence, by decide, rfl⟩
    have hlines : Text.endedLines (fence ++ '\n' :: '\n' :: body) =
        (fence ++ ['\n']) :: Text.endedLines ('\n' :: body) :=
      Text.endedLines_append_line hline ('\n' :: body)
    have hsplit := b.split_text_append hlines rfl
    rw [Text.flatten_endedLines] at hsplit
    refine ⟨'\n' :: body, ?_, List.dropWhile_cons_of_pos rfl⟩
    rw [List.append_assoc]
    exact hsplit

end Block

/-! ## Formatting -/

/-- Front matter is cut off a source with nothing but blanks behind it.  Formatting puts it in
front of the formatted body, apart from it by a blank line if the body is not blank, and there it
is found again with that body behind it.  A source has no front matter if no line behind an opening
line is a fence up to its trailing blanks. -/
theorem front_matter_kept (c : Config) (s : Text) :
    (∀ f body, split s = (some f, body) →
      (∃ gap, Text.isAllBlank gap = true ∧ s = f ++ gap ++ body) ∧
      ∃ d r t, Engine.standard.format c (Document.read body) = .ok d ∧ d.render c = .ok r ∧
        formatText c s = .ok t ∧
        t = (if Text.isAllBlank r then f ++ r else f ++ ['\n', '\n'] ++ r) ∧
        ∃ rest, split t = (some f, rest) ∧ Text.trimStart rest = Text.trimStart r) ∧
    ((∀ first rest, Opens first → s = first ++ rest →
      ∀ l ∈ Text.endedLines rest, Text.trimEnd l ≠ fence) → split s = (none, s)) := by
  constructor
  · intro f body hsplit
    obtain ⟨b, gap, hgap, rfl, hsource⟩ := Block.exists_of_split hsplit
    obtain ⟨d, r, hd, hr⟩ := exists_format_read c body
    have hbody : formatBody c (split s).2 = .ok r := by
      rw [hsplit]
      exact formatBody_of_render hd hr
    have hformat := formatText_of_formatBody hbody
    rw [hsplit] at hformat
    exact ⟨⟨gap, hgap, hsource⟩, d, r, _, hd, hr, hformat, rfl, b.exists_split_attach r⟩
  · exact split_eq_none_iff.mpr

/-- A block with a blank behind its closing fence, and one that is never closed. -/
theorem front_matter_kept_or_absent :
    (∃ t rest, formatText {} "---\na: 1\n--- \ntext\n".toList = .ok t ∧
      split t = (some "---\na: 1\n---".toList, rest)) ∧
    split "---\na: 1\n".toList = (none, "---\na: 1\n".toList) := by
  constructor
  · have hsplit : split "---\na: 1\n--- \ntext\n".toList =
        (some "---\na: 1\n---".toList, "text\n".toList) := by decide +kernel
    obtain ⟨_, _, _, t, _, _, hformat, _, rest, hrest, _⟩ :=
      (front_matter_kept {} _).1 _ _ hsplit
    exact ⟨t, rest, hformat, hrest⟩
  · apply (front_matter_kept {} "---\na: 1\n".toList).2
    intro first rest hfirst hs
    rcases hfirst with rfl | rfl
    · cases hs
      decide +kernel
    · cases hs

end FrontMatter

end Tidymark
