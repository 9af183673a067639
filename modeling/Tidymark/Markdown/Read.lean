import Tidymark.Markdown.Paragraph
import Tidymark.Markdown.Reference

/-!
# Reading the blocks of a source

The source is read block by block.  At each line the open containers are
matched first, new containers are opened next, and what is left of the line
starts a leaf block.
-/

namespace Tidymark

namespace Markdown

namespace Open

/-- Read a list marker behind its indentation: the marker, the columns it takes up with the
indentation and the blanks behind it, and the cursor behind it.  Of five or more columns behind
the marker only one belongs to it. -/
def itemMark? (indent : Nat) (c : Cursor) : Option (ListMark × Nat × Cursor) :=
  if (thematicBreak? c.rest).isSome then none
  else
    match listMark? c.rest with
    | none => none
    | some mark =>
        let width := indent + mark.length + 1
        let (after, missing) := (c.skip mark.length).pass 1
        if missing ≠ 0 && !after.atLineEnd then none
        else if isBlankLine after.rest then some (mark, width, after)
        else
          let (inside, columns) := after.passUpTo 4
          if columns < 4 then some (mark, width + columns, inside) else some (mark, width, after)

def taskMark? (c : Cursor) : Option Cursor :=
  let (inside, _) := c.passUpTo 3
  match inside.rest with
  | '[' :: mark :: ']' :: after :: _ =>
      if (isLineBlank mark || mark == 'x' || mark == 'X') && isLineBlank after then
        some (inside.skip 3)
      else none
  | _ => none

/-- What comes of a new container at the start of a line: there is none, its content starts at
`c`, or its first line is taken already and the next block is looked for at `next`. -/
inductive Opened where
  | none
  | inside (o : Open) (c : Cursor)
  | taken (o : Open) (next : Place)

def addRead (o : Open) (l : Leaf) : Open × Place :=
  ({ o.add l.block with afterBlank := l.afterBlank }, l.next)

/-- Open an item.  A task marker starts a paragraph, whatever follows it on its line. -/
def openItem (o : Open) (outer : Nat) (markStart : Nat) (mark : ListMark) (indent : Nat)
    (c : Cursor) : Opened :=
  let start := markStart - outer
  let (list, o) := o.beginItem start mark.char mark.number.isSome
  let o := { o with frames := .item list ⟨start, indent, []⟩ :: o.frames }
  match blankLine? c.rest with
  | some n =>
      let next := c.place.skip n
      .taken { o with begun := some next.offset } next
  | none =>
      match taskMark? c with
      | none => .inside o c
      | some after =>
          match blankLine? after.rest with
          | some n =>
              let next := after.place.skip n
              let marked := o.add (.taskMark ⟨c.offset, after.offset⟩)
              .taken { marked with begun := some next.offset } next
          | none =>
              let (o, next) := o.addRead (Paragraph.read o c.offset after.place)
              .taken o next

/-- Open the container that starts here, if one does.  `lineStart` is where the line starts. -/
def openOne (o : Open) (lineStart : Nat) (c : Cursor) : Opened :=
  let (inside, outer) := c.passUpTo 4
  if 4 ≤ outer then .none
  else
    match itemMark? outer inside with
    | some (mark, indent, after) => o.openItem outer inside.offset mark indent after
    | none =>
        match inside.passQuoteMarker? with
        | some after =>
            let o := o.beginBlock lineStart
            .inside { o with frames := .quote inside.offset :: o.frames } after
        | none => .none

def openAll (lineStart : Nat) : Nat → Open → Cursor → Open × (Cursor ⊕ Place)
  | 0, o, c => (o, .inl c)
  | fuel + 1, o, c =>
      match o.openOne lineStart c with
      | .none => (o, .inl c)
      | .inside o c => openAll lineStart fuel o c
      | .taken o next => (o, .inr next)

/-- Take note of a blank line.  Nothing more goes into an item that began with a blank line but
what is not indented. -/
def noteBlank (o : Open) : Open :=
  match o.resting, o.frames with
  | none, [] => o
  | none, .quote _ :: _ => o
  | none, .item l i :: rest =>
      let indent := if o.begun.isSome then 0 else i.indent
      { o with frames := .item l { i with indent := indent } :: rest, afterBlank := true }
  | some _, _ => { o with afterBlank := true }

def addLeaf (o : Open) (lineStart : Nat) (leaf : Open → Leaf) : Open × Place :=
  let o := o.beginBlock lineStart
  o.addRead (leaf o)

/-- Read the definitions that start here and the paragraph behind them; `fuel` bounds their
number. -/
def readText : Nat → Nat → Open → Place → Open × Place
  | 0, lineStart, o, p => o.addLeaf lineStart fun o => Paragraph.read o p.offset p
  | fuel + 1, lineStart, o, p =>
      match Reference.read? o p with
      | none => o.addLeaf lineStart fun o => Paragraph.read o p.offset p
      | some (definition, stop) =>
          let o := o.define definition
          let next := stop.skipBlankLine
          let (current, c) := o.continued next
          let (inside, missing) := c.pass 4
          if missing ≠ 0 && o.interrupts current inside.place then (o.beginBlock lineStart, next)
          else readText fuel next.offset o inside.passAll.place

def readLeaf (o : Open) (lineStart : Nat) (c : Cursor) : Open × Place :=
  let (inside, indent) := c.passUpTo 4
  let p := inside.place
  if indent = 4 then o.addLeaf lineStart fun o => Leaf.indentedCode o inside.owedSpaces p
  else
    match Leaf.html? o p with
    | some _ =>
        o.addLeaf lineStart fun o => (Leaf.html? o p).getD (Paragraph.read o p.offset p)
    | none =>
        match thematicBreak? p.rest with
        | some n => o.addLeaf lineStart fun _ => Leaf.thematicBreak p n
        | none =>
            match atxLevel? p.rest with
            | some level => o.addLeaf lineStart fun _ => Leaf.atxHeading p level
            | none =>
                match openingFence? p.rest with
                | some (char, n) =>
                    o.addLeaf lineStart fun o => Leaf.fencedCode o indent char n p
                | none => readText (p.rest.length + 1) lineStart o p

/-- Read one block, or the blank line or containers that stand in its place. -/
def readBlock (o : Open) (p : Place) : Open × Place :=
  let (matched, c) := o.enter p
  let o := o.closeTo matched p.offset
  match openAll p.offset (c.rest.length + 1) o c with
  | (o, .inr next) => (o, next)
  | (o, .inl c) =>
      match blankLine? c.rest with
      | some n => (o.noteBlank, c.place.skip n)
      | none => o.readLeaf p.offset c

def readAll : Nat → Open → Place → Open × Nat
  | 0, o, p => (o, p.offset)
  | fuel + 1, o, p =>
      match p.rest with
      | [] => (o, p.offset)
      | _ :: _ =>
          let (o, next) := o.readBlock p
          readAll fuel o next

end Open

def Source.read (s : Text) : Source :=
  let (o, stop) := Open.readAll (s.length + 1) {} ⟨0, s⟩
  o.finish stop

end Markdown

end Tidymark
