import Tidymark.Proofs.Format.FrontMatter
import Tidymark.Proofs.Render.Rows

/-!
# Front matter out of content

A source without front matter can be formatted into a text that has some:
reading drops blank lines and indentation at the start, so a thematic break of
three dashes comes to open the text, and any later line of three dashes closes
what is then front matter.  Headings marked by hashes, lists and code blocks
never open front matter.
-/

namespace Tidymark

/-- A node whose first line is its own text, with no mark in front of it: opaque text, a paragraph
or a heading that is underlined. -/
def Node.Freeform : Node → Prop
  | .text _ | .paragraph _ => True
  | .heading h => h.style = .setext ∧ h.level ≤ 2 ∧ Text.trim h.text ≠ []
  | .document _ | .list _ | .item _ | .code _ => False

namespace FrontMatter

/-- The first line of a text that is not blank is a fence, up to trailing blanks. -/
def StartsWithFence (s : Text) : Prop :=
  ∃ line, (Text.shown s).head? = some line ∧ Text.trimEnd line = fence

theorem startsWithFence_of_split {s f body : Text} (h : split s = (some f, body)) :
    StartsWithFence s := by
  obtain ⟨b, gap, _, _, hs⟩ := Block.exists_of_split h
  have hrest : s = b.first ++ (b.inner.flatten ++ (fence ++ (gap ++ body))) := by
    rw [hs, Block.text, List.append_assoc, List.append_assoc, List.append_assoc]
  have hline (line : Text) (hl : Text.shown line = [line]) (htrim : Text.trimEnd line = fence)
      (hfirst : b.first = line ++ ['\n']) : StartsWithFence s := by
    refine ⟨line, ?_, htrim⟩
    rw [hrest, hfirst, List.append_assoc, List.singleton_append, Text.shown_append_break, hl]
    rfl
  rcases b.opens with hfirst | hfirst
  · exact hline fence (by decide) (by decide) hfirst
  · exact hline (fence ++ ['\r']) (by decide) (by decide) hfirst

/-- A text whose first line that is not blank starts otherwise does not start with a fence. -/
theorem not_startsWithFence_of_head? {s : Text}
    (h : ∀ l, (Text.shown s).head? = some l → l.head? ≠ some '-') : ¬StartsWithFence s := by
  rintro ⟨line, hline, htrim⟩
  obtain ⟨gap, _, rfl⟩ := trimEnd_eq_fence_iff.mp htrim
  exact h _ hline rfl

theorem not_startsWithFence_cons {a : Char} (ha : isBlank a = false) (hdash : a ≠ '-') (s : Text) :
    ¬StartsWithFence (a :: s) := by
  obtain ⟨l, ls, hs⟩ := Text.exists_shown_cons ha s
  apply not_startsWithFence_of_head?
  intro line hline hhead
  rw [hs] at hline
  cases hline
  cases hhead
  exact hdash rfl

end FrontMatter

namespace Render

open FrontMatter

theorem not_startsWithFence_atxHeading {level : Nat} (hlevel : 1 ≤ level) (text : Text) :
    ¬StartsWithFence (atxHeading level text) := by
  obtain ⟨n, rfl⟩ := Nat.exists_eq_add_of_le' hlevel
  rw [atxHeading, List.replicate_succ, List.cons_append, List.cons_append]
  exact not_startsWithFence_cons rfl (by decide) _

def indentedLine (line : Text) : Text :=
  if Text.isAllBlank line then [] else [' ', ' ', ' ', ' '] ++ line

theorem head?_of_mem_shown_indentedCode {content l : Text}
    (hl : l ∈ Text.shown (indentedCode content)) : l.head? = some ' ' := by
  have hbreaks : ∀ k ∈ (Text.lines (dropFinalBreak content)).map indentedLine, '\n' ∉ k := by
    intro k hk
    obtain ⟨line, hline, rfl⟩ := List.mem_map.mp hk
    have hline := Text.not_mem_of_mem_lines hline
    rw [indentedLine]
    split
    · simp
    · simpa using hline
  have hcode : indentedCode content =
      ((Text.lines (dropFinalBreak content)).map indentedLine).flatMap (· ++ ['\n']) ++ ['\n'] := by
    rw [List.flatMap_map]
    rfl
  have hend : Text.shown ['\n'] = [] := rfl
  rw [hcode, Text.shown_flatMap_append hbreaks, hend, List.append_nil, List.mem_filter] at hl
  obtain ⟨hmem, hblank⟩ := hl
  obtain ⟨line, _, rfl⟩ := List.mem_map.mp hmem
  rw [indentedLine] at hblank ⊢
  split at hblank
  · cases hblank
  · next hline => rw [if_neg hline]; rfl

theorem not_startsWithFence_code (b : CodeBlock) : ¬StartsWithFence (code b) := by
  rw [code]
  split
  · obtain ⟨n, hn⟩ : ∃ n, max 3 (longestRun b.fence.char b.content + 1) = n + 1 :=
      ⟨max 3 (longestRun b.fence.char b.content + 1) - 1, by omega⟩
    rw [fencedCode, fenceFor, hn, List.replicate_succ]
    cases b.fence with
    | backticks | tildes => exact not_startsWithFence_cons rfl (by decide) _
  · apply not_startsWithFence_of_head?
    intro l hl
    rw [head?_of_mem_shown_indentedCode (List.mem_of_head? hl)]
    decide

/-- The line of a row is no fence: behind a marker that is a dash stands a space or nothing. -/
theorem Row.Marked.trimEnd_line_ne {c : ListConfig} {r : Row} (h : r.Marked c) :
    Text.trimEnd r.line ≠ fence := by
  intro htrim
  obtain ⟨gap, _, hline⟩ := trimEnd_eq_fence_iff.mp htrim
  have hread : Row.read (fence ++ gap) = ⟨0, ['-'], '-' :: gap⟩ := rfl
  rw [← hline, h.read_line] at hread
  rw [hread] at hline
  cases hline

theorem Row.Marked.not_startsWithFence {c : ListConfig} {r : Row} (h : r.Marked c) (s : Text) :
    ¬StartsWithFence (r.written ++ s) := by
  obtain ⟨first, more, hlines⟩ := List.exists_cons_of_ne_nil (Text.lines_ne_nil r.text)
  obtain ⟨rest, hwritten, _⟩ := r.exists_written hlines
  have hfirst : '\n' ∉ first := Text.not_mem_of_mem_lines (by rw [hlines]; exact List.mem_cons_self)
  have hmarked : Row.Marked c { r with text := first } := h
  rw [hwritten, List.append_assoc, List.cons_append]
  rintro ⟨line, hhead, htrim⟩
  rw [Text.shown_append_break, hmarked.shown_line hfirst] at hhead
  cases hhead
  exact hmarked.trimEnd_line_ne htrim

theorem not_startsWithFence_list {c : Config} {l : ItemList} {t : Text}
    (h : node c (.list (l.normalized c)) = .ok t) : ¬StartsWithFence t := by
  obtain ⟨ordered, marker, is⟩ := l
  rw [node, ItemList.normalized] at h
  cases hitems : items c.list 0 (Item.numbered c ordered 1 is) with
  | error e =>
      rw [hitems] at h
      cases h
  | ok s =>
      rw [hitems] at h
      cases h
      cases is with
      | nil =>
          cases hitems
          rintro ⟨line, hhead, _⟩
          cases hhead
      | cons i is =>
          obtain ⟨_, text, children⟩ := i
          rw [items_eq_rows hitems, Item.numbered, Item.normalized, itemRows,
            shownMarker_itemMarker, List.flatMap_cons]
          dsimp only
          rw [List.append_assoc]
          exact Row.Marked.not_startsWithFence ⟨ordered, 1, rfl⟩ _

/-! ## Nodes -/

/-- A normalised node starts with a fence only if it is opaque text, a paragraph or an underlined
heading. -/
theorem freeform_of_startsWithFence {c : Config} {n : Node} {t : Text} (hn : n.kind ≠ .item)
    (h : node c (n.normalized c) = .ok t) (hfence : StartsWithFence t) :
    (n.normalized c).Freeform := by
  cases n with
  | document _ => cases h
  | heading g =>
      rw [Node.normalized, node, heading] at h
      split at h
      · next hlevel =>
          dsimp only at h
          split at h
          · next hsetext => exact hsetext
          · cases h
            exact absurd hfence (not_startsWithFence_atxHeading hlevel.1 _)
      · cases h
  | paragraph _ | text _ => trivial
  | list l => exact absurd hfence (not_startsWithFence_list h)
  | item _ => exact absurd rfl hn
  | code b =>
      cases h
      exact absurd hfence (not_startsWithFence_code _)

/-- The first line of a document that is not blank is the first such line of a node with no such
line in front of it. -/
theorem exists_first_of_body {c : Config} {d : Document} {t line : Text} (h : body c d = .ok t)
    (hline : (Text.shown t).head? = some line) :
    ∃ before n after s, d = before ++ n :: after ∧
      (∀ m ∈ before, ∃ r, node c m = .ok r ∧ Text.shown r = []) ∧
      node c n = .ok s ∧ (Text.shown s).head? = some line := by
  induction d generalizing t with
  | nil =>
      cases h
      cases hline
  | cons n d ih =>
      rw [body] at h
      obtain ⟨first, rest, hfirst, hrest, rfl⟩ := exists_append_of_ok h
      rw [Text.shown_append_of_ended (writes_node c n hfirst).ended] at hline
      cases hshown : Text.shown first with
      | nil =>
          rw [hshown, List.nil_append] at hline
          obtain ⟨before, m, after, s, rfl, hbefore, hm, hs⟩ := ih hrest hline
          refine ⟨n :: before, m, after, s, rfl, ?_, hm, hs⟩
          rw [List.forall_mem_cons]
          exact ⟨⟨first, hfirst, hshown⟩, hbefore⟩
      | cons l ls =>
          rw [hshown] at hline
          refine ⟨[], n, d, first, rfl, by simp, hfirst, ?_⟩
          rw [hshown]
          exact hline

end Render

namespace FrontMatter

/-- If a source without front matter is formatted into a text that has some, the first line of this
text that is not blank is a fence which opaque text, a paragraph or an underlined heading wrote;
the nodes in front of that one wrote blank lines only. -/
theorem exists_writer_of_split_formatText (c : Config) {s t f rest : Text}
    (hs : (split s).1 = none) (ht : formatText c s = .ok t) (hf : split t = (some f, rest)) :
    ∃ before n after w, (Document.read s).map (Node.normalized c) = before ++ n :: after ∧
      (∀ m ∈ before, ∃ r, Render.node c m = .ok r ∧ Text.shown r = []) ∧
      Render.node c n = .ok w ∧ StartsWithFence w ∧ n.Freeform := by
  obtain ⟨d, r, hd, hr⟩ := exists_format_read c s
  obtain ⟨_, rfl⟩ := Engine.eq_map_normalized_of_format_standard hd
  have hsplit := split_of_fst_eq_none hs
  have hbody : formatBody c (split s).2 = .ok r := by
    rw [hsplit]
    exact formatBody_of_render hd hr
  have hformat := formatText_of_formatBody hbody
  rw [hsplit, ht] at hformat
  cases hformat
  obtain ⟨b, hb, hfinish⟩ := Document.exists_of_render hr
  obtain ⟨line, hline, htrim⟩ := startsWithFence_of_split hf
  rw [attach, hfinish, Render.shown_finish] at hline
  obtain ⟨before, n, after, w, hparts, hbefore, hn, hw⟩ := Render.exists_first_of_body hb hline
  have hfence : StartsWithFence w := ⟨line, hw, htrim⟩
  have hmem : n ∈ (Document.read s).map (Node.normalized c) := by
    rw [hparts]
    simp
  obtain ⟨m, hm, rfl⟩ := List.mem_map.mp hmem
  exact ⟨before, _, after, w, hparts, hbefore, hn, hfence,
    Render.freeform_of_startsWithFence (Document.kind_ne_item_read s m hm) hn hfence⟩

/-- A thematic break under a blank line, above code with a line of three dashes. -/
theorem exists_writer_of_split_formatText_break :
    ∃ t f rest before n after w, formatText {} "\n---\n\n```\n---\nb\n```\n".toList = .ok t ∧
      split t = (some f, rest) ∧
      (Document.read "\n---\n\n```\n---\nb\n```\n".toList).map (Node.normalized {}) =
        before ++ n :: after ∧
      (∀ m ∈ before, ∃ r, Render.node {} m = .ok r ∧ Text.shown r = []) ∧
      Render.node {} n = .ok w ∧ StartsWithFence w ∧ n.Freeform := by
  have hformat : formatText {} "\n---\n\n```\n---\nb\n```\n".toList =
      .ok "---\n\n```\n---\nb\n```\n".toList := ok_of_toOption (by decide +kernel)
  have hfront : split "---\n\n```\n---\nb\n```\n".toList =
      (some "---\n\n```\n---".toList, "b\n```\n".toList) := by decide +kernel
  obtain ⟨before, n, after, w, hwritten⟩ :=
    exists_writer_of_split_formatText {} (by decide +kernel) hformat hfront
  exact ⟨_, _, _, before, n, after, w, hformat, hfront, hwritten⟩

/-- Formatting can turn content into front matter: a break comes to open it, and a line of code
closes it. -/
theorem front_matter_not_only_kept :
    ¬∀ (c : Config) (s t : Text), (split s).1 = none → formatText c s = .ok t →
      (split t).1 = none := by
  intro hkept
  have hformat : formatText {} "\n---\n\n```\n---\nb\n```\n".toList =
      .ok "---\n\n```\n---\nb\n```\n".toList := ok_of_toOption (by decide +kernel)
  have hnone := hkept {} _ _ (by decide +kernel) hformat
  exact absurd hnone (by decide +kernel)

end FrontMatter

end Tidymark
