import Mathlib.Data.List.Basic
import Tidymark.Document.Markers
import Tidymark.Document.Reading
import Tidymark.Proofs.Render.Lines

/-!
# Rows of a list

A list is written row by row: the row of an item has its indentation, its
marker and its text, and the rows of what is nested in the item follow it.  A
row whose text has no line feed is one line, and is read off that line again.
-/

namespace Tidymark

namespace ListConfig

/-! ## Markers -/

theorem exists_bullet (c : ListConfig) :
    ∃ mark, c.bulletStyle.token = [mark] ∧ (mark = '-' ∨ mark = '*' ∨ mark = '+') := by
  cases hstyle : c.bulletStyle with
  | dash => exact ⟨'-', rfl, by decide⟩
  | asterisk => exact ⟨'*', rfl, by decide⟩
  | plus => exact ⟨'+', rfl, by decide⟩

theorem exists_delimiter (c : ListConfig) :
    ∃ mark, c.numberStyle.token = [mark] ∧ (mark = '.' ∨ mark = ')') := by
  cases hstyle : c.numberStyle with
  | period => exact ⟨'.', rfl, by decide⟩
  | parenthesis => exact ⟨')', rfl, by decide⟩

theorem exists_digits (n : Nat) :
    ∃ d ds, Text.ofNat n = d :: ds ∧ ∀ e ∈ d :: ds, e.isDigit = true := by
  obtain ⟨d, ds, hds⟩ := List.exists_cons_of_ne_nil (@Nat.toDigits_ne_nil n 10)
  refine ⟨d, ds, ?_, ?_⟩
  · rw [Text.ofNat, Nat.toList_repr, hds]
  · intro e he
    rw [← hds] at he
    exact Nat.isDigit_of_mem_toDigits (by decide) (by decide) he

theorem isBlank_of_isDigit {a : Char} (h : a.isDigit = true) : isBlank a = false := by
  apply Text.isBlank_of_isAlphanum
  rw [Char.isAlphanum, h, Bool.or_true]

/-- What a marker starts with tells whether it is numbered, and is not blank. -/
theorem exists_head_itemMarker (c : ListConfig) (ordered : Bool) (n : Nat) :
    ∃ a rest, c.itemMarker ordered n = a :: rest ∧ isBlank a = false ∧ a.isDigit = ordered := by
  cases ordered with
  | false =>
      obtain ⟨mark, htoken, hmark⟩ := c.exists_bullet
      refine ⟨mark, [], htoken, ?_⟩
      rcases hmark with rfl | rfl | rfl <;> decide
  | true =>
      obtain ⟨d, ds, hds, hdigits⟩ := exists_digits n
      have hd := hdigits d List.mem_cons_self
      refine ⟨d, ds ++ c.numberStyle.token, ?_, isBlank_of_isDigit hd, hd⟩
      rw [itemMarker, if_pos rfl, hds, List.cons_append]

theorem not_blank_of_mem_itemMarker (c : ListConfig) {ordered : Bool} {n : Nat} {a : Char}
    (ha : a ∈ c.itemMarker ordered n) : isBlank a = false := by
  cases ordered with
  | false =>
      obtain ⟨mark, htoken, hmark⟩ := c.exists_bullet
      rw [itemMarker, if_neg Bool.false_ne_true, htoken, List.mem_singleton] at ha
      rcases hmark with rfl | rfl | rfl <;> rw [ha] <;> rfl
  | true =>
      obtain ⟨d, ds, hds, hdigits⟩ := exists_digits n
      obtain ⟨mark, htoken, hmark⟩ := c.exists_delimiter
      rw [itemMarker, if_pos rfl, hds, htoken, List.mem_append, List.mem_singleton] at ha
      rcases ha with ha | rfl
      · exact isBlank_of_isDigit (hdigits a ha)
      · rcases hmark with rfl | rfl <;> rfl

theorem ordered_eq_of_itemMarker_eq {c : ListConfig} {ordered ordered' : Bool} {n n' : Nat}
    (h : c.itemMarker ordered n = c.itemMarker ordered' n') : ordered = ordered' := by
  obtain ⟨a, rest, hmarker, _, hdigit⟩ := c.exists_head_itemMarker ordered n
  obtain ⟨b, rest', hmarker', _, hdigit'⟩ := c.exists_head_itemMarker ordered' n'
  rw [hmarker, hmarker', List.cons.injEq] at h
  rw [← hdigit, ← hdigit', h.1]

/-- A marker is read where it stands. -/
theorem itemMarker_append (c : ListConfig) (ordered : Bool) (n : Nat) (s : Text) :
    Tidymark.itemMarker (c.itemMarker ordered n ++ s) = c.itemMarker ordered n := by
  have hstart : Text.trimStart (c.itemMarker ordered n ++ s) = c.itemMarker ordered n ++ s := by
    obtain ⟨a, rest, hmarker, hblank, _⟩ := c.exists_head_itemMarker ordered n
    rw [hmarker, List.cons_append, Text.trimStart,
      List.dropWhile_cons_of_neg (by simp [hblank])]
  rw [Tidymark.itemMarker]
  simp only [hstart]
  cases ordered with
  | false =>
      obtain ⟨mark, htoken, hmark⟩ := c.exists_bullet
      have hmarker : c.itemMarker false n = [mark] := htoken
      rw [hmarker]
      rcases hmark with rfl | rfl | rfl <;> rfl
  | true =>
      obtain ⟨d, ds, hds, hdigits⟩ := exists_digits n
      obtain ⟨mark, htoken, hmark⟩ := c.exists_delimiter
      have hmarker : c.itemMarker true n = d :: ds ++ [mark] := by
        rw [itemMarker, if_pos rfl, hds, htoken]
      have hstop : mark.isDigit = false := by rcases hmark with rfl | rfl <;> decide
      have hend : (mark == '.' || mark == ')') = true := by rcases hmark with rfl | rfl <;> decide
      have htake : (d :: ds ++ [mark] ++ s).takeWhile Char.isDigit = d :: ds := by
        rw [List.append_assoc, List.takeWhile_append_of_pos hdigits, List.singleton_append,
          List.takeWhile_cons_of_neg (by simp [hstop]), List.append_nil]
      have hdrop : (d :: ds ++ [mark] ++ s).drop (d :: ds).length = mark :: s := by
        rw [List.append_assoc, List.drop_left, List.singleton_append]
      rw [hmarker, htake, hdrop]
      simp [hend]

end ListConfig

theorem itemMarker_spaces_append (k : Nat) (s : Text) :
    itemMarker (List.replicate k ' ' ++ s) = itemMarker s := by
  have hstart : Text.trimStart (List.replicate k ' ' ++ s) = Text.trimStart s :=
    List.dropWhile_append_of_pos (Text.isBlank_of_mem_spaces k)
  rw [itemMarker, itemMarker, hstart]

namespace Render

theorem shownMarker_itemMarker (c : ListConfig) (ordered : Bool) (n : Nat) :
    shownMarker c (c.itemMarker ordered n) = c.itemMarker ordered n := by
  obtain ⟨a, rest, hhead, _⟩ := c.exists_head_itemMarker ordered n
  rw [shownMarker, hhead]
  rfl

/-! ## Rows -/

/-- What is written for an item alone: how far it is indented, its marker and its text. -/
structure Row where
  indent : Nat
  marker : Text
  text : Text

namespace Row

def written (r : Row) : Text := itemLines r.indent r.marker r.text

def line (r : Row) : Text :=
  List.replicate r.indent ' ' ++ r.marker ++ if r.text.isEmpty then [] else ' ' :: r.text

def read (s : Text) : Row :=
  let indent := (s.takeWhile (· == ' ')).length
  let marker := itemMarker s
  ⟨indent, marker, s.drop (indent + marker.length + 1)⟩

/-- The marker of a row is one that the configuration has for items. -/
def Marked (c : ListConfig) (r : Row) : Prop := ∃ ordered n, r.marker = c.itemMarker ordered n

/-- A row is read off its line. -/
theorem Marked.read_line {c : ListConfig} {r : Row} (h : r.Marked c) : read r.line = r := by
  obtain ⟨indent, marker, text⟩ := r
  obtain ⟨ordered, n, hmarker⟩ := h
  change marker = c.itemMarker ordered n at hmarker
  subst hmarker
  obtain ⟨a, rest, hhead, hblank, _⟩ := c.exists_head_itemMarker ordered n
  have hspace : (a == ' ') = false := by
    rw [beq_eq_false_iff_ne]
    rintro rfl
    cases hblank
  have hindent (t : Text) :
      (List.replicate indent ' ' ++ c.itemMarker ordered n ++ t).takeWhile (· == ' ') =
        List.replicate indent ' ' := by
    rw [List.append_assoc, List.takeWhile_append_of_pos (by simp), hhead, List.cons_append,
      List.takeWhile_cons_of_neg (by simp [hspace]), List.append_nil]
  have hread (t : Text) : itemMarker (List.replicate indent ' ' ++ c.itemMarker ordered n ++ t) =
      c.itemMarker ordered n := by
    rw [List.append_assoc, itemMarker_spaces_append, ListConfig.itemMarker_append]
  simp only [read, line, hindent, hread, List.length_replicate, mk.injEq, true_and]
  have hlength : (List.replicate indent ' ' ++ c.itemMarker ordered n).length =
      indent + (c.itemMarker ordered n).length := by
    rw [List.length_append, List.length_replicate]
  rw [← hlength, ← List.drop_drop, List.drop_left]
  cases text with
  | nil => rfl
  | cons b text => rfl

/-- A row starts with the line of the first line of its text. -/
theorem exists_written (r : Row) {first : Text} {more : List Text}
    (h : Text.lines r.text = first :: more) :
    ∃ rest, r.written = line { r with text := first } ++ '\n' :: rest ∧
      (more = [] → rest = []) := by
  rw [written, itemLines, h]
  simp only [line, List.append_assoc, List.singleton_append]
  refine ⟨_, rfl, ?_⟩
  rintro rfl
  rfl

theorem written_of_not_mem {r : Row} (h : '\n' ∉ r.text) : r.written = r.line ++ ['\n'] := by
  obtain ⟨rest, hwritten, hrest⟩ := r.exists_written (Text.lines_of_not_mem h)
  rw [hwritten, hrest rfl]

theorem Marked.isAllBlank_line {c : ListConfig} {r : Row} (h : r.Marked c) :
    Text.isAllBlank r.line = false := by
  obtain ⟨ordered, n, hmarker⟩ := h
  obtain ⟨a, rest, hhead, hblank, _⟩ := c.exists_head_itemMarker ordered n
  rw [line, hmarker, hhead, Text.isAllBlank, List.all_append, List.all_append, List.all_cons,
    hblank, Bool.false_and, Bool.and_false, Bool.false_and]

theorem Marked.not_mem_line {c : ListConfig} {r : Row} (h : r.Marked c) (htext : '\n' ∉ r.text) :
    '\n' ∉ r.line := by
  obtain ⟨ordered, n, hmarker⟩ := h
  have hitem : '\n' ∉ c.itemMarker ordered n := fun hmem => by
    cases c.not_blank_of_mem_itemMarker hmem
  rw [line, hmarker]
  intro hmem
  rw [List.mem_append, List.mem_append] at hmem
  rcases hmem with (hmem | hmem) | hmem
  · cases List.eq_of_mem_replicate hmem
  · exact hitem hmem
  · split at hmem
    · cases hmem
    · exact htext ((List.mem_cons.mp hmem).resolve_left (by decide))

theorem Marked.shown_line {c : ListConfig} {r : Row} (h : r.Marked c) (htext : '\n' ∉ r.text) :
    Text.shown r.line = [r.line] :=
  Text.shown_line (h.not_mem_line htext) h.isAllBlank_line

end Row

mutual

/-- The rows of items, in the order in which they are written. -/
def itemRows (c : ListConfig) (indent : Nat) : List Item → List Row
  | [] => []
  | ⟨marker, text, children⟩ :: rest =>
      ⟨indent, shownMarker c marker, text⟩ ::
        (childRows c (nestedIndent c indent (shownMarker c marker)) children ++
          itemRows c indent rest)

/-- The rows of the lists nested in an item. -/
def childRows (c : ListConfig) (indent : Nat) : List Node → List Row
  | [] => []
  | .list ⟨_, _, is⟩ :: rest => itemRows c indent is ++ childRows c indent rest
  | _ :: rest => childRows c indent rest

end

mutual

/-- Items are written row by row. -/
theorem items_eq_rows {c : ListConfig} {indent : Nat} {is : List Item} {t : Text}
    (h : items c indent is = .ok t) : t = (itemRows c indent is).flatMap Row.written := by
  match is with
  | [] =>
      cases h
      rw [itemRows, List.flatMap_nil]
  | ⟨marker, text, children⟩ :: rest =>
      rw [items, item] at h
      obtain ⟨first, others, hfirst, hothers, rfl⟩ := exists_append_of_ok h
      obtain ⟨own, below, hown, hbelow, rfl⟩ :=
        exists_append_of_ok (x := .ok (itemLines indent (shownMarker c marker) text)) hfirst
      cases hown
      rw [itemRows, List.flatMap_cons, List.flatMap_append, ← children_eq_rows hbelow,
        ← items_eq_rows hothers, List.append_assoc]
      rfl

theorem children_eq_rows {c : ListConfig} {indent : Nat} {ns : List Node} {t : Text}
    (h : itemChildren c indent ns = .ok t) : t = (childRows c indent ns).flatMap Row.written := by
  match ns with
  | [] =>
      cases h
      rw [childRows, List.flatMap_nil]
  | .list ⟨_, _, is⟩ :: rest =>
      rw [itemChildren] at h
      obtain ⟨first, others, hfirst, hothers, rfl⟩ := exists_append_of_ok h
      rw [childRows, List.flatMap_append, ← items_eq_rows hfirst, ← children_eq_rows hothers]
  | .document _ :: _ | .heading _ :: _ | .paragraph _ :: _ | .item _ :: _ | .code _ :: _
  | .text _ :: _ => cases h

end

theorem shown_rows_append {c : ListConfig} {rows : List Row} (hmarked : ∀ r ∈ rows, r.Marked c)
    (hlines : ∀ r ∈ rows, '\n' ∉ r.text) (s : Text) :
    Text.shown (rows.flatMap Row.written ++ s) = rows.map Row.line ++ Text.shown s := by
  have hwritten : rows.flatMap Row.written = (rows.map Row.line).flatMap (· ++ ['\n']) := by
    rw [List.flatMap_map]
    exact List.flatMap_congr fun r hr => Row.written_of_not_mem (hlines r hr)
  have hbreaks : ∀ l ∈ rows.map Row.line, '\n' ∉ l := by
    intro l hl
    obtain ⟨r, hr, rfl⟩ := List.mem_map.mp hl
    exact (hmarked r hr).not_mem_line (hlines r hr)
  have hblank : ∀ l ∈ rows.map Row.line, (!Text.isAllBlank l) = true := by
    intro l hl
    obtain ⟨r, hr, rfl⟩ := List.mem_map.mp hl
    rw [(hmarked r hr).isAllBlank_line]
    rfl
  rw [hwritten, Text.shown_flatMap_append hbreaks, List.filter_eq_self.mpr hblank]

end Render

end Tidymark
