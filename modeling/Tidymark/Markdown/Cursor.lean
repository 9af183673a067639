import Tidymark.Markdown.Line

/-!
# Columns of indentation

A tab reaches to the next column that is a multiple of four.  A cursor passes
columns of indentation one by one, so it can stand inside a tab; the columns
of the tab not yet passed are owed.
-/

namespace Tidymark

namespace Markdown

/-- A place in a line that may stand inside a tab. -/
structure Cursor where
  place : Place
  /-- The offset from which columns are counted. -/
  base : Nat
  /-- The columns of the last tab that are not yet passed. -/
  owed : Nat
  deriving Repr

namespace Cursor

def ofPlace (p : Place) : Cursor := ⟨p, p.offset, 0⟩

def rest (c : Cursor) : Text := c.place.rest

def offset (c : Cursor) : Nat := c.place.offset

/-- Pass at most `wanted` columns of the text; the number is what is still wanted then. -/
def passText (base offset : Nat) : Nat → Text → Cursor × Nat
  | 0, s => (⟨⟨offset, s⟩, base, 0⟩, 0)
  | wanted + 1, ' ' :: s => passText base (offset + 1) wanted s
  | wanted + 1, '\t' :: s =>
      let columns := 4 - (offset - base) % 4
      if wanted + 1 < columns then (⟨⟨offset + 1, s⟩, offset + 1, columns - (wanted + 1)⟩, 0)
      else passText (offset + 1) (offset + 1) (wanted + 1 - columns) s
  | wanted, s => (⟨⟨offset, s⟩, base, 0⟩, wanted)
termination_by _ s => s.length

def pass (c : Cursor) (wanted : Nat) : Cursor × Nat :=
  if wanted ≤ c.owed then ({ c with owed := c.owed - wanted }, 0)
  else passText c.base c.offset (wanted - c.owed) c.rest

def passUpTo (c : Cursor) (most : Nat) : Cursor × Nat :=
  let (after, missing) := c.pass most
  (after, most - missing)

def passExactly? (c : Cursor) (wanted : Nat) : Option Cursor :=
  let (after, missing) := c.pass wanted
  if missing = 0 then some after else none

def passAll (c : Cursor) : Cursor :=
  let n := (c.rest.takeWhile fun d => d == ' ' || d == '\t').length
  { c with place := c.place.skip n, owed := 0 }

def skip (c : Cursor) (n : Nat) : Cursor := { c with place := c.place.skip n }

def atLineEnd (c : Cursor) : Bool := (lineEnd? c.rest).isSome

def owedSpaces (c : Cursor) : Text := List.replicate c.owed ' '

/-- Pass the marker of a block quote and one column behind it. -/
def passQuoteMarker? (c : Cursor) : Option Cursor :=
  match c.rest with
  | '>' :: _ => some ((c.skip 1).pass 1).1
  | _ => none

end Cursor

end Markdown

end Tidymark
