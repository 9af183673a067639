import Tidymark.Markdown.Html
import Tidymark.Markdown.Mark
import Tidymark.Markdown.Open

/-!
# What ends a paragraph

A line ends the paragraph before it if it is blank or starts another block.
List items end a paragraph of the same container only if they are not empty
and not numbered from elsewhere than one.  Two lines that start a table end a
paragraph if the first starts with a pipe.
-/

namespace Tidymark

namespace Markdown

/-- Whether a list marker at the start of a text has a blank or the end of the line behind it. -/
def startsItem (s : Text) : Option (ListMark × Text) :=
  match listMark? s with
  | none => none
  | some mark =>
      let after := s.drop mark.length
      match after with
      | ' ' :: _ | '\t' :: _ => some (mark, after)
      | _ => if (lineEnd? after).isSome then some (mark, after) else none

def blankTwice (s : Text) : Bool :=
  match blankLine? s with
  | some n => isBlankLine (s.drop n)
  | none => false

/-- Whether a list item ends the paragraph before it.  Any item ends a paragraph that only
continues by leaving markers out, and any item ends a table. -/
def itemInterrupts (current inTable : Bool) (s : Text) : Bool :=
  match startsItem s with
  | none => false
  | some (mark, after) =>
      !current || inTable || ((mark.number.isNone || mark.number == some 1) && !blankTwice after)

def lineInterrupts (current inTable : Bool) (s : Text) : Bool :=
  (lineEnd? s).isSome || (thematicBreak? s).isSome || (atxLevel? s).isSome ||
    (openingFence? s).isSome || ['>'].isPrefixOf s || itemInterrupts current inTable s ||
    (match s with
      | '<' :: r => (Html.ending? r).isSome || Html.startsBlockElement r
      | _ => false)

/-! Tables -/

/-- The pipes of a line: their number, what follows the last, and the rest from the end of the
line on. -/
structure Pipes where
  count : Nat
  afterLast : Text
  rest : Text

/-- Count the pipes of a line that no backslash escapes.  If `paired`, a backslash can itself be
escaped. -/
def pipes? (paired escaped : Bool) (count : Nat) (afterLast : Text) : Text → Option Pipes
  | [] => none
  | c :: s =>
      if isLineEnd c then some ⟨count, afterLast, c :: s⟩
      else if c = '\\' then pipes? paired (!(paired && escaped)) count afterLast s
      else if c = '|' ∧ ¬escaped then pipes? paired false (count + 1) s s
      else pipes? paired false count afterLast s

def headingColumns (s : Text) (p : Pipes) : Nat :=
  let inner := if (s.drop (blankRun s)).head? = some '|' then p.count - 1 else p.count
  if isBlankLine p.afterLast then inner else inner + 1

/-- The state of reading a delimiter row: closed columns, whether a pipe and a hyphen have been
seen, and what the column being read holds. -/
structure Columns where
  closed : Nat
  pipe : Bool
  hyphen : Bool
  started : Bool
  hyphenInColumn : Bool

def delimiterCells? (st : Columns) : Text → Option (Nat × Nat)
  | [] => ended st
  | c :: s =>
      if isLineEnd c then ended st
      else
        let next :=
          if c = ' ' then some st
          else if c = ':' then some { st with started := true }
          else if c = '-' then
            some { st with started := true, hyphen := true, hyphenInColumn := true }
          else if c = '|' ∧ st.hyphenInColumn then
            some ⟨st.closed + 1, true, st.hyphen, false, false⟩
          else none
        match next with
        | none => none
        | some st => (delimiterCells? st s).map fun (n, k) => (n, k + 1)
where
  ended (st : Columns) : Option (Nat × Nat) :=
    if st.pipe && st.hyphen then some (if st.started then st.closed + 1 else st.closed, 0) else none

/-- A delimiter row, behind at most three columns of indentation: its number of columns, and its
length with its line ending. -/
def delimiterRow? (s : Text) : Option (Nat × Nat) :=
  let (c, indent) := (Cursor.ofPlace ⟨0, s⟩).passUpTo 4
  if 3 < indent ∨ c.rest = [] then none
  else
    let (skipped, st, cells) := match c.rest with
      | '|' :: r => (1, (⟨0, true, false, false, false⟩ : Columns), r)
      | r => (0, ⟨0, false, false, false, false⟩, r)
    match delimiterCells? st cells with
    | none => none
    | some (columns, n) =>
        let length := c.offset + skipped + n
        (lineEnd? (s.drop length)).map fun k => (columns, length + k)

namespace Open

/-- The place behind the delimiter row of a table whose heading row starts here. -/
def tableBody? (o : Open) (paired : Bool) (p : Place) : Option Place :=
  match pipes? paired false 0 p.rest p.rest with
  | none => none
  | some row =>
      if row.count = 0 then none
      else
        let next : Place := ⟨p.offset + (p.rest.length - row.rest.length), row.rest⟩
        let next := next.skip ((lineEnd? row.rest).getD 0)
        let (current, c) := o.continued next
        match delimiterRow? c.rest with
        | some (columns, n) =>
            if current && columns == headingColumns p.rest row then some (c.place.skip n) else none
        | none => none

def interrupts (o : Open) (current : Bool) (p : Place) : Bool :=
  lineInterrupts current false p.rest ||
    (['|'].isPrefixOf p.rest && (o.tableBody? false p).isSome)

end Open

end Markdown

end Tidymark
