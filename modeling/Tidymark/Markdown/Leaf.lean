import Tidymark.Markdown.Entity
import Tidymark.Markdown.Interrupt

/-!
# Leaf blocks

Headings marked by hashes, code blocks, HTML blocks and tables.  Each is read
from where its first line starts, behind the indentation, up to the place
where the next block is looked for.
-/

namespace Tidymark

namespace Markdown

structure Leaf where
  block : Block
  next : Place
  /-- Whether the last line read is blank. -/
  afterBlank : Bool := false

namespace Leaf

def thematicBreak (p : Place) (length : Nat) : Leaf :=
  ⟨.thematicBreak ⟨p.offset, p.offset + length⟩, p.skip length, false⟩

/-- The text of a heading without its closing hashes, which need a space before them. -/
def withoutClosing (s : Text) : Text :=
  let s := Text.dropEndWhile (fun c => c == ' ' || isLineEnd c) s
  let body := Text.dropEndWhile (· == '#') s
  if body.isEmpty then []
  else
    let trimmed := Text.dropEndWhile (· == ' ') body
    if trimmed.length < body.length then trimmed else s

def atxHeading (p : Place) (level : Nat) : Leaf :=
  let inside := p.skip level
  let inside := inside.skip (blankRun inside.rest)
  let n := lineLength inside.rest
  let next := inside.skip n
  let next := next.skip ((lineEnd? next.rest).getD 0)
  let text := withoutClosing (inside.rest.take n)
  ⟨.heading ⟨p.offset, next.offset⟩ level ⟨inside.offset, inside.offset + text.length⟩, next, false⟩

/-- A line of code with a line ending of two characters made one.  At the end of the source any
ASCII character counts as the last of a line ending. -/
def codeLine (s : Text) : Text :=
  match s.reverse with
  | c :: '\r' :: r => if c.toNat < 0x80 then (c :: r).reverse else s
  | _ => s

/-- The lines of an indented code block.  `kept` is the content up to the last line that is not
blank and the offset behind it; `blank` tells whether the line at `p` is blank. -/
def indentedLines (o : Open) (held : Text) (kept : Text × Nat) (blank : Bool) :
    Nat → Text → Place → (Text × Nat) × Place × Bool
  | 0, _, p => (kept, p, blank)
  | fuel + 1, owed, p =>
      let n := throughLineFeed p.rest
      let held := held ++ owed ++ codeLine (p.rest.take n)
      let next := p.skip n
      let kept := if blank then kept else (held, next.offset)
      let (current, c) := o.continued next
      let (inside, missing) := c.pass 4
      if !current || (missing ≠ 0 && !inside.atLineEnd) || inside.rest.isEmpty then
        (kept, next, blank)
      else indentedLines o held kept (isBlankLine inside.rest) fuel inside.owedSpaces inside.place

/-- A code block indented by four columns, `owed` being left of its indentation. -/
def indentedCode (o : Open) (owed : Text) (p : Place) : Leaf :=
  let ((content, stop), next, blank) :=
    indentedLines o [] ([], p.offset) false (p.rest.length + 1) owed p
  ⟨.code ⟨p.offset, stop⟩ none content, next, blank⟩

/-- The lines of a code block between fences: its content, the offset behind it, and the place
behind it. -/
def fencedLines (o : Open) (indent : Nat) (char : Char) (length : Nat) (held : Text) :
    Nat → Place → Text × Nat × Place
  | 0, p => (held, p.offset, p)
  | fuel + 1, p =>
      let (current, c) := o.continued p
      if !current then (held, p.offset, p)
      else
        let inside := (c.pass indent).1
        let (after, missing) := inside.pass (4 - indent)
        let closing := if missing ≠ 0 then closingFence? char length after.rest else none
        match closing with
        | some n =>
            let stop := after.place.skip n
            (held, stop.offset, stop.skipBlankLine)
        | none =>
            let n := throughLineFeed inside.rest
            let held := held ++ inside.owedSpaces ++ codeLine (inside.rest.take n)
            fencedLines o indent char length held fuel (inside.place.skip n)

def fencedCode (o : Open) (indent : Nat) (char : Char) (length : Nat) (p : Place) : Leaf :=
  let info := p.skip length
  let info := info.skip (blankRun info.rest)
  let n := throughLineFeed info.rest
  let infoText := Entity.unescape (Text.dropEndWhile isAsciiBlank (info.rest.take n))
  let (content, stop, next) :=
    fencedLines o indent char length [] (p.rest.length + 1) (info.skip n)
  ⟨.code ⟨p.offset, stop⟩ (some infoText) content, next, false⟩

/-- The lines of an HTML block with an ending of its own: the offset and the place behind it. -/
def htmlLines (o : Open) (ending : Text) : Nat → Place → Nat × Place
  | 0, p => (p.offset, p)
  | fuel + 1, p =>
      let n := throughLineFeed p.rest
      let next := p.skip n
      let (current, c) := o.continued next
      if !current || Text.holds ending (p.rest.take n) then (next.offset, next)
      else if c.rest.isEmpty then (c.offset, next)
      else htmlLines o ending fuel c.place

def htmlLinesToBlank (o : Open) : Nat → Place → Nat × Place
  | 0, p => (p.offset, p)
  | fuel + 1, p =>
      let next := p.skip (throughLineFeed p.rest)
      let (current, c) := o.continued next
      if !current || c.atLineEnd then (next.offset, next)
      else if isBlankLine c.rest then (c.offset, next)
      else htmlLinesToBlank o fuel c.place

def html? (o : Open) (p : Place) : Option Leaf :=
  match p.rest with
  | '<' :: s =>
      match Html.ending? s with
      | some ending =>
          let (stop, next) := htmlLines o ending (p.rest.length + 1) p
          some ⟨.other ⟨p.offset, stop⟩, next, false⟩
      | none =>
          if Html.startsBlockElement s || Html.isLoneTag s then
            let (stop, next) := htmlLinesToBlank o (p.rest.length + 1) p
            some ⟨.other ⟨p.offset, stop⟩, next, false⟩
          else none
  | _ => none

def tableRows (o : Open) : Nat → Place → Place
  | 0, p => p
  | fuel + 1, p =>
      let (current, c) := o.continued p
      let row := c.passAll
      if !current || lineInterrupts current true row.rest then p
      else
        let next := row.place.skip (lineLength row.rest)
        tableRows o fuel (next.skip ((lineEnd? next.rest).getD 0))

def table (o : Open) (p body : Place) : Leaf :=
  let next := tableRows o (body.rest.length + 1) body
  ⟨.other ⟨p.offset, next.offset⟩, next, false⟩

end Leaf

end Markdown

end Tidymark
