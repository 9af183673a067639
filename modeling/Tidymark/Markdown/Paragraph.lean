import Tidymark.Markdown.Leaf

/-!
# Paragraphs

A paragraph runs on until a line ends it.  An underline makes it a heading,
and a delimiter row under its first line makes it a table.
-/

namespace Tidymark

namespace Markdown

namespace Paragraph

/-- The offset behind the inline text of a line that starts at `lineStart` and holds text from
`p` on.  A line of blanks adds none. -/
def inlineStop (lineStart : Nat) (p : Place) : Nat :=
  let text := Text.dropEndWhile isLineBlank (p.rest.take (lineLength p.rest))
  if text.isEmpty then lineStart else p.offset + text.length

def nextLine (p : Place) : Place :=
  let stop := p.skip (lineLength p.rest)
  stop.skip ((lineEnd? stop.rest).getD 0)

/-- The lines of a paragraph that starts at `first`, of which the one read starts at `lineStart`
and holds text from `p` on. -/
def lines (o : Open) (first : Nat) : Nat → Nat → Place → Leaf
  | 0, lineStart, p => ⟨.paragraph ⟨first, p.offset⟩ ⟨first, lineStart⟩, p, false⟩
  | fuel + 1, lineStart, p =>
      let stop := inlineStop lineStart p
      let next := nextLine p
      let (current, c) := o.continued next
      let (inside, missing) := c.pass 4
      let underline := if missing ≠ 0 && current then underline? inside.rest else none
      match underline with
      | some (level, n) =>
          let after := inside.place.skip n
          ⟨.heading ⟨first, after.offset⟩ level ⟨first, stop⟩, after, false⟩
      | none =>
          let content := inside.passAll
          if (missing ≠ 0 && o.interrupts current inside.place) || content.atLineEnd then
            ⟨.paragraph ⟨first, next.offset⟩ ⟨first, stop⟩, next, false⟩
          else lines o first fuel next.offset content.place

/-- The block that a line of plain text starts.  Its inline text starts at `first`, which is
before `p` if there is a task marker. -/
def read (o : Open) (first : Nat) (p : Place) : Leaf :=
  match o.tableBody? true p with
  | some body => Leaf.table o p body
  | none => lines o first (p.rest.length + 1) p.offset p

end Paragraph

end Markdown

end Tidymark
