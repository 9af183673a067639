import Tidymark.Markdown.Block
import Tidymark.Markdown.Cursor

/-!
# Open containers

While a source is read, quotes and list items are open, each inside the one
before.  A line belongs to an open container if it starts with what the
container asks for.  The innermost container may be followed by a list whose
last item is closed and that the next item may still continue.
-/

namespace Tidymark

namespace Markdown

/-- A list being read; its closed items are kept newest first. -/
structure OpenList where
  start : Nat
  char : Char
  ordered : Bool
  tight : Bool
  items : List BlockItem

structure OpenItem where
  start : Nat
  /-- The columns by which the lines of the item are indented. -/
  indent : Nat
  children : List Block

inductive Frame where
  | quote (start : Nat)
  | item (list : OpenList) (item : OpenItem)

structure Open where
  /-- The open containers, innermost first. -/
  frames : List Frame := []
  /-- The list behind the innermost container, between two of its items. -/
  resting : Option OpenList := none
  /-- The closed blocks outside containers, newest first. -/
  roots : List Block := []
  definitions : List Definition := []
  /-- Whether the line before was blank. -/
  afterBlank : Bool := false
  /-- Where the first line of an item ended that was blank behind its marker. -/
  begun : Option Nat := none

namespace OpenItem

def close (i : OpenItem) : BlockItem := ⟨i.start, i.children.reverse⟩

end OpenItem

namespace OpenList

def close (l : OpenList) (stop : Nat) : Block :=
  .list ⟨⟨l.start, stop⟩, l.ordered, l.tight, l.items.reverse⟩

end OpenList

namespace Frame

/-- Pass what a container asks of a line: a quote its marker, an item its indentation unless
the line is blank. -/
def pass? (c : Cursor) : Frame → Option Cursor
  | .quote _ => (c.passUpTo 3).1.passQuoteMarker?
  | .item _ i =>
      match c.passExactly? i.indent with
      | some after => some after
      | none =>
          let after := (c.pass i.indent).1
          if after.atLineEnd then some after else none

end Frame

namespace Open

/-- Pass what the containers, outermost first, ask of a line, and tell how many are satisfied. -/
def passFrames : List Frame → Cursor → Nat × Cursor
  | [], c => (0, c)
  | frame :: rest, c =>
      match frame.pass? c with
      | none => (0, c)
      | some after =>
          let (n, last) := passFrames rest after
          (n + 1, last)

def enter (o : Open) (p : Place) : Nat × Cursor :=
  passFrames o.frames.reverse (Cursor.ofPlace p)

def continued (o : Open) (p : Place) : Bool × Cursor :=
  let (n, c) := o.enter p
  (n == o.frames.length, c)

/-- Add a block to the innermost container.  What a quote holds is not kept. -/
def add (o : Open) (b : Block) : Open :=
  match o.frames with
  | [] => { o with roots := b :: o.roots }
  | .quote _ :: _ => o
  | .item l i :: rest => { o with frames := .item l { i with children := b :: i.children } :: rest }

def closeResting (o : Open) (stop : Nat) : Open :=
  match o.resting with
  | none => o
  | some l =>
      let o := { o with resting := none }.add (l.close stop)
      if l.tight then { o with begun := none } else o

def closeFrame (o : Open) (stop : Nat) : Open :=
  let o := o.closeResting stop
  match o.frames with
  | [] => o
  | .quote start :: rest => { o with frames := rest }.add (.other ⟨start, stop⟩)
  | .item l i :: rest =>
      { o with frames := rest, resting := some { l with items := i.close :: l.items } }

def closeTo (o : Open) (count stop : Nat) : Open :=
  (List.range (o.frames.length - count)).foldl (fun o _ => o.closeFrame stop) o

/-- Close an item that began with two blank lines. -/
def closeBlankItem (o : Open) : Open :=
  let o := match o.begun, o.afterBlank, o.resting, o.frames with
    | some stop, true, none, .item _ _ :: _ => o.closeFrame stop
    | _, _, _, _ => o
  { o with begun := none }

/-- Prepare for a block that is no list item: a list in between is closed, and a blank line
before the block makes the list around it loose. -/
def beginBlock (o : Open) (stop : Nat) : Open :=
  let o := (o.closeBlankItem).closeResting stop
  match o.afterBlank, o.frames with
  | true, .item l i :: rest =>
      { o with frames := .item { l with tight := false } i :: rest, afterBlank := false }
  | _, _ => { o with afterBlank := false }

/-- Prepare for an item: the list it continues, or a new one, and what is open around it. -/
def beginItem (o : Open) (start : Nat) (char : Char) (ordered : Bool) : OpenList × Open :=
  let o := o.closeBlankItem
  let fresh : OpenList := ⟨start, char, ordered, true, []⟩
  match o.resting with
  | some l =>
      if l.char = char then
        if o.afterBlank then
          ({ l with tight := false }, { o with resting := none, afterBlank := false })
        else (l, { o with resting := none })
      else (fresh, { o.beginBlock start with afterBlank := false })
  | none =>
      if o.frames.isEmpty then (fresh, { o with afterBlank := false })
      else (fresh, { o.beginBlock start with afterBlank := false })

def finish (o : Open) (stop : Nat) : Source :=
  let o := (o.closeTo 0 stop).closeResting stop
  ⟨o.roots.reverse, o.definitions.reverse⟩

def define (o : Open) (d : Definition) : Open :=
  if o.definitions.any (·.label == d.label) then o
  else { o with definitions := d :: o.definitions }

end Open

end Markdown

end Tidymark
