import Tidymark.Text.Piece

/-!
# The block structure of a source

Blocks are known by where they stand in the source.  Of the blocks that a
document takes over as they are written, quotes, thematic breaks, HTML and
tables, nothing more is kept.
-/

namespace Tidymark

namespace Markdown

mutual

inductive Block where
  /-- A heading, and where its inline text stands. -/
  | heading (span : Span) (level : Nat) (inline : Span)
  | paragraph (span : Span) (inline : Span)
  /-- A code block; one between fences has an info text. -/
  | code (span : Span) (info : Option Text) (content : Text)
  | list (list : BlockList)
  | thematicBreak (span : Span)
  /-- A task marker with nothing behind it on its line. -/
  | taskMark (span : Span)
  | other (span : Span)

/-- A list.  In a tight list the paragraphs of the items are bare inline text.  The inline text
of a paragraph begins with its task marker, if it has one. -/
structure BlockList where
  span : Span
  ordered : Bool
  tight : Bool
  items : List BlockItem

/-- An item: where its marker stands, with the indentation before it, and its blocks. -/
structure BlockItem where
  start : Nat
  children : List Block

end

/-- A link reference definition: its folded label and where it stands. -/
structure Definition where
  label : Text
  span : Span
  deriving Repr

structure Source where
  blocks : List Block
  definitions : List Definition

end Markdown

end Tidymark
