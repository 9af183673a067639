import Tidymark.Proofs.Format.Failures
import Tidymark.Proofs.Reflow.LineEnds
import Tidymark.Proofs.Render.Rows

/-!
# No blanks at the ends of lines

The white space rule reaches none of the nodes that the other rules claim.
Headings, paragraphs, items and opaque texts get rid of the blanks at the ends
of their lines each in its own way, and nothing that is written around them
puts one there.
-/

namespace Tidymark

namespace Text

theorem flush_flatMap {α : Type} {f : α → Text} {xs : List α} (h : ∀ x ∈ xs, Flush (f x)) :
    Flush (xs.flatMap f) := by
  induction xs with
  | nil => exact flush_nil
  | cons x xs ih =>
      rw [List.forall_mem_cons] at h
      exact h.1.append (ih h.2)

theorem Flush.indented {l : Text} (hl : Flush l) (hbreak : '\n' ∉ l) (n : Nat) :
    Flush (if l.isEmpty then [] else List.replicate n ' ' ++ l) := by
  cases l with
  | nil => exact flush_nil
  | cons b l =>
      rw [List.mem_cons, not_or] at hbreak
      exact hl.spaces_append (Ne.symm hbreak.1) n

end Text

namespace Render

/-! ## Headings -/

theorem flush_atxHeading (level : Nat) {s : Text} (hs : Text.Trimmed s) (hbreak : '\n' ∉ s) :
    Text.Flush (atxHeading level s) := by
  have hhashes : Text.Flush (List.replicate level '#') := Text.flush_replicate rfl level
  cases s with
  | nil => exact (hhashes.append Text.flush_nil).append_blankLine
  | cons b s =>
      have hclosing : Text.Flush (if needsClosing (b :: s) then [' ', '#'] else []) := by
        split
        · exact (Text.flush_replicate (a := '#') rfl 1).space_cons (by decide)
        · exact Text.flush_nil
      rw [List.mem_cons, not_or] at hbreak
      have htext : Text.Flush (' ' :: b :: s) :=
        (hs.flush (by simp [hbreak])).space_cons (Ne.symm hbreak.1)
      exact (hhashes.append (htext.append hclosing)).append_blankLine

theorem flush_setextHeading (level : Nat) {s : Text} (hs : Text.Flush s) :
    Text.Flush (setextHeading level s) := by
  have hunderline (n : Nat) :
      Text.Flush (List.replicate n (if level = 1 then '=' else '-')) := by
    apply Text.flush_replicate
    split <;> rfl
  exact (hs.append (Text.flush_cons_break.mpr (hunderline _))).append_blankLine

theorem flush_heading {h : Heading} (hbreak : '\n' ∉ h.text) {t : Text} (ht : heading h = .ok t) :
    Text.Flush t := by
  have htrim : '\n' ∉ Text.trim h.text := fun hmem => hbreak ((Text.trim_sublist _).subset hmem)
  have htrimmed := Text.trimmed_trim h.text
  rw [heading] at ht
  split at ht
  · simp only at ht
    split at ht
    · cases ht
      exact flush_setextHeading h.level (htrimmed.flush htrim)
    · cases ht
      exact flush_atxHeading h.level htrimmed htrim
  · cases ht

/-! ## Items -/

theorem Row.Marked.flush_written {c : ListConfig} {r : Row} (h : r.Marked c)
    (htext : Text.Flush r.text) : Text.Flush r.written := by
  obtain ⟨indent, marker, text⟩ := r
  obtain ⟨ordered, n, rfl⟩ := h
  obtain ⟨first, more, hlines⟩ := List.exists_cons_of_ne_nil (Text.lines_ne_nil text)
  have hline (n : Nat) {l : Text} (hl : l ∈ Text.lines text) :
      Text.Flush (if l.isEmpty then [] else List.replicate n ' ' ++ l) :=
    (htext.of_mem_lines hl).indented (Text.not_mem_of_mem_lines hl) n
  have hmarker : Text.Flush (List.replicate indent ' ' ++ c.itemMarker ordered n) := by
    obtain ⟨a, rest, hhead, hblank, _⟩ := c.exists_head_itemMarker ordered n
    have hflush : Text.Flush (c.itemMarker ordered n) :=
      Text.flush_of_not_blank fun b hb => c.not_blank_of_mem_itemMarker hb
    have hbreak : a ≠ '\n' := by
      rintro rfl
      cases hblank
    rw [hhead] at hflush ⊢
    exact hflush.spaces_append hbreak indent
  have hfirst := hline 1 (l := first) (by rw [hlines]; exact List.mem_cons_self)
  have hmore : ∀ l ∈ more, l ∈ Text.lines text := by
    rw [hlines]
    exact fun l hl => List.mem_cons_of_mem first hl
  rw [Row.written, itemLines]
  simp only [hlines]
  exact (hmarker.append hfirst).append_break.append
    (Text.flush_flatMap fun l hl => (hline _ (hmore l hl)).append_break)

mutual

/-- The rows of items that were tidied have configured markers and flush texts. -/
theorem flush_of_mem_itemRows {c : Config} {ordered : Bool} {n indent : Nat} {is : List Item}
    {r : Row} (hr : r ∈ itemRows c.list indent (Item.numbered c ordered n is)) :
    r.Marked c.list ∧ Text.Flush r.text := by
  match is with
  | [] =>
      rw [Item.numbered, itemRows] at hr
      cases hr
  | ⟨_, text, children⟩ :: rest =>
      simp only [Item.numbered, Item.normalized, itemRows, List.mem_cons, List.mem_append] at hr
      rcases hr with rfl | hr | hr
      · exact ⟨⟨ordered, n, shownMarker_itemMarker c.list ordered n⟩, Text.flush_collapseBlanks _⟩
      · exact flush_of_mem_childRows hr
      · exact flush_of_mem_itemRows hr

theorem flush_of_mem_childRows {c : Config} {indent : Nat} {ns : List Node} {r : Row}
    (hr : r ∈ childRows c.list indent (Node.normalizedAll c ns)) :
    r.Marked c.list ∧ Text.Flush r.text := by
  match ns with
  | [] =>
      rw [Node.normalizedAll, childRows] at hr
      cases hr
  | .list ⟨ordered, _, is⟩ :: rest =>
      simp only [Node.normalizedAll, Node.normalized, ItemList.normalized, childRows,
        List.mem_append] at hr
      rcases hr with hr | hr
      · exact flush_of_mem_itemRows hr
      · exact flush_of_mem_childRows hr
  | .document _ :: rest | .heading _ :: rest | .paragraph _ :: rest | .item _ :: rest
  | .code _ :: rest | .text _ :: rest =>
      rw [Node.normalizedAll, Node.normalized, childRows] at hr
      · exact flush_of_mem_childRows hr
      · rintro ordered marker is hlist
        cases hlist

end

/-! ## Documents -/

/-- A node that was tidied is written flush, unless it is a code block or an item outside a list. -/
theorem flush_node {c : Config} (htrim : c.whitespace.trimTrailingSpaces = true) {n : Node}
    (hkind : n.kind ≠ .code ∧ n.kind ≠ .item)
    (hheading : ∀ h, n = .heading h → '\n' ∉ h.text) {t : Text}
    (ht : node c (n.normalized c) = .ok t) : Text.Flush t := by
  cases n with
  | document children => cases ht
  | heading h =>
      have hbreak : '\n' ∉ (h.tidy c.heading).text := fun hmem =>
        hheading h rfl ((Text.trim_sublist _).subset hmem)
      exact flush_heading hbreak ht
  | paragraph s =>
      cases ht
      exact (flush_paragraphText c.lineWidth (Text.flush_collapseBlanks _)).append_blankLine
  | list l =>
      obtain ⟨ordered, marker, is⟩ := l
      rw [Node.normalized, node, ItemList.normalized] at ht
      cases hitems : items c.list 0 (Item.numbered c ordered 1 is) with
      | error e =>
          rw [hitems] at ht
          cases ht
      | ok s =>
          rw [hitems] at ht
          cases ht
          rw [items_eq_rows hitems]
          refine (Text.flush_flatMap fun r hr => ?_).append_break
          obtain ⟨hmarked, htext⟩ := flush_of_mem_itemRows hr
          exact hmarked.flush_written htext
  | item i => exact absurd rfl hkind.2
  | code b => exact absurd rfl hkind.1
  | text s =>
      cases ht
      rw [opaqueText, if_pos htrim]
      exact (Text.flush_trimLineEnds _).append_blankLine

theorem flush_body {c : Config} (htrim : c.whitespace.trimTrailingSpaces = true) {d : Document}
    (hkinds : ∀ n ∈ d, n.kind ≠ .code ∧ n.kind ≠ .item)
    (hheadings : ∀ h, .heading h ∈ d → '\n' ∉ h.text) {t : Text}
    (ht : body c (d.map (Node.normalized c)) = .ok t) : Text.Flush t := by
  induction d generalizing t with
  | nil =>
      cases ht
      exact Text.flush_nil
  | cons n rest ih =>
      rw [List.forall_mem_cons] at hkinds
      obtain ⟨first, others, hfirst, hothers, rfl⟩ := exists_append_of_ok ht
      have hn : Text.Flush first :=
        flush_node htrim hkinds.1 (fun h hn => hheadings h (by simp [hn])) hfirst
      have hrest : Text.Flush others :=
        ih hkinds.2 (fun h hh => hheadings h (List.mem_cons_of_mem n hh)) hothers
      exact hn.append hrest

/-- What is done to the whole text adds nothing to the ends of its lines. -/
theorem flush_finish (c : WhitespaceConfig) {s : Text} (hs : Text.Flush s) :
    Text.Flush (finish c s) := by
  obtain ⟨x, breaks, _, hbreaks, hsplit, hfinish⟩ := exists_finish c s
  have hnormalized : Text.Flush (BlankLines.normalize c.maxBlankLines s) := by
    rw [BlankLines.normalize_eq]
    apply Text.flush_joinLines
    intro l hl
    have hmem := (BlankLines.kept_sublist c.maxBlankLines (Text.lines s)).subset hl
    exact ⟨Text.not_mem_of_mem_lines hmem, hs l hmem⟩
  rw [hsplit] at hnormalized
  have hx : Text.Flush x :=
    hnormalized.of_append fun a ha => hbreaks a (List.mem_of_head? ha)
  rw [hfinish]
  split
  · exact hx.append_break
  · exact hx

end Render

/-- What the standard rules make of a document is rendered without a space or a tab at the end of
any line, if these are to be trimmed.  Code is kept as it is, an item outside a list has a marker of
its own, and a line feed in the text of a heading is not looked at. -/
theorem Document.no_trailing_blanks {c : Config} {d d' : Document} {t : Text}
    (hkinds : ∀ n ∈ d, n.kind ≠ .code ∧ n.kind ≠ .item)
    (hheadings : ∀ h, .heading h ∈ d → '\n' ∉ h.text)
    (htrim : c.whitespace.trimTrailingSpaces = true)
    (hpass : Engine.standard.format c d = .ok d') (hrender : d'.render c = .ok t) :
    ∀ l ∈ Text.lines t, l.getLast? ≠ some ' ' ∧ l.getLast? ≠ some '\t' := by
  obtain ⟨_, rfl⟩ := Engine.eq_map_normalized_of_format_standard hpass
  obtain ⟨b, hbody, rfl⟩ := Document.exists_of_render hrender
  have hflush : Text.Flush b := Render.flush_body htrim hkinds hheadings hbody
  intro l hl
  have hend := Render.flush_finish c.whitespace hflush l hl
  constructor
  · intro hlast
    cases hend _ hlast
  · intro hlast
    cases hend _ hlast

/-- A heading, a broken link, an item of two lines and a quote, with blanks behind their lines. -/
theorem Document.no_trailing_blanks_each :
    ∃ d' t, Engine.standard.format {}
        [.heading ⟨1, "a ".toList, .atx⟩, .paragraph "b [c \n d](e) \nf".toList,
          .list ⟨false, [], [⟨[], "g \n h".toList, []⟩]⟩, .text "> i \t\n> j".toList] = .ok d' ∧
      d'.render {} = .ok t ∧
      t = "# a\n\nb [c d](e) f\n\n- g\n  h\n\n> i\n> j\n".toList ∧
      ∀ l ∈ Text.lines t, l.getLast? ≠ some ' ' ∧ l.getLast? ≠ some '\t' := by
  have hpass := Engine.format_standard_of_wellShaped {} (d := [.heading ⟨1, "a ".toList, .atx⟩,
      .paragraph "b [c \n d](e) \nf".toList, .list ⟨false, [], [⟨[], "g \n h".toList, []⟩]⟩,
      .text "> i \t\n> j".toList])
    (by constructor <;> simp [Document.preorder, Node.preorder, Node.descendants,
          ItemList.descendants, Item.preorder, Item.descendants, Node.kind])
  have hrender : Document.render {} (List.map (Node.normalized {})
      [.heading ⟨1, "a ".toList, .atx⟩, .paragraph "b [c \n d](e) \nf".toList,
        .list ⟨false, [], [⟨[], "g \n h".toList, []⟩]⟩, .text "> i \t\n> j".toList]) =
        .ok "# a\n\nb [c d](e) f\n\n- g\n  h\n\n> i\n> j\n".toList :=
    ok_of_toOption (by decide +kernel)
  refine ⟨_, _, hpass, hrender, rfl, ?_⟩
  exact Document.no_trailing_blanks (by simp [Node.kind]) (by simp) rfl hpass hrender

end Tidymark
