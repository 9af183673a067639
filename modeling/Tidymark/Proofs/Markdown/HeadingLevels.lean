import Tidymark.Markdown.Read
import Tidymark.Proofs.Markdown.Mark

/-!
# Levels of headings

Every heading that is read outside lists and quotes has a level from 1 to 6.
The levels come from hashes and underlines alone; the invariant is that no
closed block has another level, and every step of the reader keeps it.
-/

namespace Tidymark

namespace Markdown

def Block.Leveled : Block → Prop
  | .heading _ level _ => 1 ≤ level ∧ level ≤ 6
  | _ => True

/-! ## Leaf blocks -/

theorem Leaf.leveled_html? {o : Open} {p : Place} {leaf : Leaf}
    (h : Leaf.html? o p = some leaf) : leaf.block.Leveled := by
  rw [Leaf.html?] at h
  split at h
  · split at h
    · cases h
      trivial
    · split at h
      · cases h
        trivial
      · cases h
  · cases h

/-- A paragraph becomes a heading only through an underline. -/
theorem Paragraph.leveled_lines (o : Open) (first fuel lineStart : Nat) (p : Place) :
    (Paragraph.lines o first fuel lineStart p).block.Leveled := by
  induction fuel generalizing lineStart p with
  | zero => trivial
  | succ fuel ih =>
      rw [Paragraph.lines]
      simp only
      split
      · next hunderline =>
          split at hunderline
          · exact underline?_range hunderline
          · cases hunderline
      · split
        · trivial
        · exact ih _ _

theorem Paragraph.leveled_read (o : Open) (first : Nat) (p : Place) :
    (Paragraph.read o first p).block.Leveled := by
  rw [Paragraph.read]
  split
  · trivial
  · exact Paragraph.leveled_lines o first _ _ p

/-! ## Steps of the reader -/

namespace Open

/-- Every closed block outside containers has its level in range. -/
def Leveled (o : Open) : Prop := ∀ b ∈ o.roots, b.Leveled

variable {o : Open}

theorem Leveled.add (h : o.Leveled) {b : Block} (hb : b.Leveled) : (o.add b).Leveled := by
  rw [Open.add]
  split
  · intro b' hb'
    rcases List.mem_cons.mp hb' with rfl | hb'
    · exact hb
    · exact h b' hb'
  · exact h
  · exact h

theorem Leveled.closeResting (h : o.Leveled) (stop : Nat) : (o.closeResting stop).Leveled := by
  rw [Open.closeResting]
  split
  · exact h
  · next l _ =>
      have hclosed : (l.close stop).Leveled := trivial
      have hadd := Leveled.add (o := { o with resting := none }) h hclosed
      split <;> exact hadd

theorem Leveled.closeFrame (h : o.Leveled) (stop : Nat) : (o.closeFrame stop).Leveled := by
  have hresting := h.closeResting stop
  rw [Open.closeFrame]
  split
  · exact hresting
  · next start rest _ =>
      exact Leveled.add (o := { o.closeResting stop with frames := rest })
        (b := .other ⟨start, stop⟩) hresting trivial
  · exact hresting

theorem Leveled.closeTo (h : o.Leveled) (count stop : Nat) : (o.closeTo count stop).Leveled := by
  rw [Open.closeTo]
  induction List.range (o.frames.length - count) generalizing o with
  | nil => exact h
  | cons n rest ih => exact ih (h.closeFrame stop)

theorem Leveled.closeBlankItem (h : o.Leveled) : o.closeBlankItem.Leveled := by
  rw [Open.closeBlankItem]
  split
  · exact h.closeFrame _
  · exact h

theorem Leveled.beginBlock (h : o.Leveled) (stop : Nat) : (o.beginBlock stop).Leveled := by
  have hclosed := h.closeBlankItem.closeResting stop
  rw [Open.beginBlock]
  split <;> exact hclosed

theorem Leveled.beginItem (h : o.Leveled) (start : Nat) (char : Char) (ordered : Bool) :
    (o.beginItem start char ordered).2.Leveled := by
  have hblank := h.closeBlankItem
  have hblock := hblank.beginBlock start
  rw [Open.beginItem]
  simp only
  split
  · split
    · split <;> exact hblank
    · exact hblock
  · split
    · exact hblank
    · exact hblock

theorem Leveled.addRead (h : o.Leveled) {leaf : Leaf} (hleaf : leaf.block.Leveled) :
    (o.addRead leaf).1.Leveled :=
  h.add hleaf

theorem Leveled.addLeaf (h : o.Leveled) (lineStart : Nat) {leaf : Open → Leaf}
    (hleaf : ∀ o, (leaf o).block.Leveled) : (o.addLeaf lineStart leaf).1.Leveled :=
  (h.beginBlock lineStart).addRead (hleaf _)

def Opened.Leveled : Opened → Prop
  | .none => True
  | .inside o _ => o.Leveled
  | .taken o _ => o.Leveled

theorem Leveled.openItem (h : o.Leveled) (outer markStart : Nat) (mark : ListMark) (indent : Nat)
    (c : Cursor) : (o.openItem outer markStart mark indent c).Leveled := by
  have hitem := h.beginItem (markStart - outer) mark.char mark.number.isSome
  rw [Open.openItem]
  simp only
  split
  · exact hitem
  · split
    · exact hitem
    · split
      · exact Leveled.add (b := .taskMark _) (by exact hitem) trivial
      · exact Leveled.addRead (by exact hitem) (Paragraph.leveled_read _ _ _)

theorem Leveled.openOne (h : o.Leveled) (lineStart : Nat) (c : Cursor) :
    (o.openOne lineStart c).Leveled := by
  rw [Open.openOne]
  simp only
  split
  · trivial
  · split
    · exact h.openItem _ _ _ _ _
    · split
      · exact h.beginBlock lineStart
      · trivial

theorem Leveled.openAll (h : o.Leveled) (lineStart fuel : Nat) (c : Cursor) :
    (Open.openAll lineStart fuel o c).1.Leveled := by
  induction fuel generalizing o c with
  | zero => exact h
  | succ fuel ih =>
      have hone := h.openOne lineStart c
      rw [Open.openAll]
      split
      · exact h
      · next hopened =>
          rw [hopened] at hone
          exact ih hone _
      · next hopened =>
          rw [hopened] at hone
          exact hone

theorem Leveled.noteBlank (h : o.Leveled) : o.noteBlank.Leveled := by
  rw [Open.noteBlank]
  split <;> exact h

theorem Leveled.define (h : o.Leveled) (d : Definition) : (o.define d).Leveled := by
  rw [Open.define]
  split <;> exact h

theorem Leveled.readText (h : o.Leveled) (fuel lineStart : Nat) (p : Place) :
    (Open.readText fuel lineStart o p).1.Leveled := by
  induction fuel generalizing o lineStart p with
  | zero => exact h.addLeaf lineStart fun o => Paragraph.leveled_read o _ p
  | succ fuel ih =>
      rw [Open.readText]
      split
      · exact h.addLeaf lineStart fun o => Paragraph.leveled_read o _ p
      · next d stop _ =>
          simp only
          split
          · exact (h.define d).beginBlock lineStart
          · exact ih (h.define d) _ _

theorem Leveled.readLeaf (h : o.Leveled) (lineStart : Nat) (c : Cursor) :
    (o.readLeaf lineStart c).1.Leveled := by
  rw [Open.readLeaf]
  simp only
  split
  · exact h.addLeaf lineStart fun _ => trivial
  · split
    · refine h.addLeaf lineStart fun o => ?_
      cases hhtml : Leaf.html? o (c.passUpTo 4).1.place with
      | none => exact Paragraph.leveled_read o _ _
      | some leaf => exact Leaf.leveled_html? hhtml
    · split
      · exact h.addLeaf lineStart fun _ => trivial
      · split
        · next hlevel => exact h.addLeaf lineStart fun _ => atxLevel?_range hlevel
        · split
          · exact h.addLeaf lineStart fun _ => trivial
          · exact h.readText _ _ _

theorem Leveled.readBlock (h : o.Leveled) (p : Place) : (o.readBlock p).1.Leveled := by
  have hopened := (h.closeTo (o.enter p).1 p.offset).openAll p.offset
    ((o.enter p).2.rest.length + 1) (o.enter p).2
  rw [Open.readBlock]
  simp only
  split
  · next hall =>
      rw [hall] at hopened
      exact hopened
  · next hall =>
      rw [hall] at hopened
      split
      · exact Leveled.noteBlank hopened
      · exact Leveled.readLeaf hopened _ _

/-- Reading to the end keeps the levels in range. -/
theorem Leveled.readAll (h : o.Leveled) (fuel : Nat) (p : Place) :
    (Open.readAll fuel o p).1.Leveled := by
  induction fuel generalizing o p with
  | zero => exact h
  | succ fuel ih =>
      rw [Open.readAll]
      split
      · exact h
      · exact ih (h.readBlock p) _

theorem Leveled.finish (h : o.Leveled) (stop : Nat) : ∀ b ∈ (o.finish stop).blocks, b.Leveled := by
  intro b hb
  exact (h.closeTo 0 stop).closeResting stop b (List.mem_reverse.mp hb)

end Open

/-- The headings of a source outside lists and quotes have levels from 1 to 6. -/
theorem Source.leveled_read (s : Text) : ∀ b ∈ (Source.read s).blocks, b.Leveled := by
  have hstart : Open.Leveled {} := fun b hb => by cases hb
  exact (hstart.readAll (s.length + 1) ⟨0, s⟩).finish _

end Markdown

end Tidymark
