import Tidymark.Markdown.Interrupt
import Tidymark.Text.Blank
import Tidymark.Text.Case

/-!
# Link reference definitions

A definition is a label in brackets, a colon, a destination and perhaps a
title.  Its parts may stand on lines of their own as long as no line starts
another block.  Labels that differ in letter case or blanks only are the same.
-/

namespace Tidymark

namespace Markdown

namespace Reference

/-- The place behind what the open containers ask of a line, unless the line ends a paragraph. -/
def nextLine? (o : Open) (p : Place) : Option Place :=
  let (current, c) := o.continued p
  if o.interrupts current c.place || (current && (underline? c.rest).isSome) then none
  else some c.place

/-- The place behind a run of blanks with at most one line ending; `broken` tells whether one has
been passed, and `fuel` bounds the length of the run. -/
def blanks? (o : Open) (broken : Bool) : Nat → Place → Option Place
  | 0, _ => none
  | fuel + 1, p =>
      match p.rest with
      | [] => some p
      | c :: _ =>
          if isLineEnd c then
            if broken then none
            else (nextLine? o (p.skip ((lineEnd? p.rest).getD 0))).bind (blanks? o true fuel)
          else if isLineBlank c then blanks? o broken fuel (p.skip 1)
          else some p

def labelLimit : Nat := 1000

/-- Read a label behind its opening bracket: its characters with each run of blanks made one
space, and the place behind the closing bracket.  `count` characters have been read, and `fuel`
bounds those that follow. -/
def label? (o : Open) (count : Nat) (held : Text) : Nat → Place → Option (Text × Place)
  | 0, _ => none
  | fuel + 1, p =>
      if labelLimit ≤ count then none
      else
        match p.rest with
        | [] => none
        | '[' :: _ => none
        | ']' :: _ =>
            let label := Text.dropEndWhile (· == ' ') (held.reverse.dropWhile (· == ' '))
            if label.isEmpty then none else some (label, p.skip 1)
        | '\\' :: c :: _ => label? o (count + 2) (c :: '\\' :: held) fuel (p.skip 2)
        | c :: _ =>
            if isAsciiBlank c then
              match blanks? o false (p.rest.length + 1) p with
              | none => none
              | some after => label? o (count + (after.offset - p.offset)) (' ' :: held) fuel after
            else label? o (count + 1) (c :: held) fuel (p.skip 1)

/-- The place behind the blanks between two parts, and whether a line ended there. -/
def gap? (o : Open) (p : Place) : Option (Place × Bool) :=
  let p := p.skip (blankRun p.rest)
  match lineEnd? p.rest with
  | none => some (p, false)
  | some n =>
      let (current, c) := o.continued (p.skip n)
      let (c, missing) := c.pass 4
      if missing ≠ 0 && (o.interrupts current c.place || (underline? c.rest).isSome) then none
      else
        let q := c.place.skip (blankRun c.rest)
        if (lineEnd? q.rest).isSome then none else some (q, true)

def angleLength? : Text → Option Nat
  | [] => none
  | '\\' :: c :: s =>
      if isPunctuation c then (angleLength? s).map (· + 2)
      else (angleLength? (c :: s)).map (· + 1)
  | c :: s =>
      if c = '>' then some 1
      else if isLineEnd c || c == '<' then none
      else (angleLength? s).map (· + 1)
termination_by s => s.length

/-- The length of a bare destination inside `nested` parentheses, of which three are too many. -/
def bareLength? (nested : Nat) : Text → Option Nat
  | [] => if nested = 0 then some 0 else none
  | '\\' :: c :: s =>
      if isPunctuation c then (bareLength? nested s).map (· + 2)
      else (bareLength? nested (c :: s)).map (· + 1)
  | c :: s =>
      if c.toNat ≤ 0x20 then if nested = 0 then some 0 else none
      else if c = '(' then if 1 < nested then none else (bareLength? (nested + 1) s).map (· + 1)
      else if c = ')' then
        match nested with
        | 0 => some 0
        | nested + 1 => (bareLength? nested s).map (· + 1)
      else (bareLength? nested s).map (· + 1)
termination_by s => s.length

def destinationLength? (s : Text) : Option Nat :=
  match s with
  | '<' :: r => (angleLength? r).map (· + 1)
  | _ =>
      match bareLength? 0 s with
      | some (n + 1) => some (n + 1)
      | _ => none

def titleRest? (o : Open) (closing : Char) : Nat → Place → Option Place
  | 0, _ => none
  | fuel + 1, p =>
      match p.rest with
      | [] => none
      | '\\' :: c :: _ => titleRest? o closing fuel (p.skip (if isPunctuation c then 2 else 1))
      | c :: _ =>
          if c = closing then some (p.skip 1)
          else if c = '(' ∧ closing = ')' then none
          else if isLineEnd c then
            (nextLine? o (p.skip ((lineEnd? p.rest).getD 0))).bind (titleRest? o closing fuel)
          else titleRest? o closing fuel (p.skip 1)

def title? (o : Open) (p : Place) : Option Place :=
  match p.rest with
  | '"' :: _ => titleRest? o '"' (p.rest.length + 1) (p.skip 1)
  | '\x27' :: _ => titleRest? o '\x27' (p.rest.length + 1) (p.skip 1)
  | '(' :: _ => titleRest? o ')' (p.rest.length + 1) (p.skip 1)
  | _ => none

/-- The place behind a title that follows a destination and ends its line. -/
def finalTitle? (o : Open) (p : Place) : Option Place :=
  match title? o p with
  | some after => if isBlankLine after.rest then some after else none
  | none => none

/-- The place behind the destination and title of a definition, read behind the colon.  Without a
title that ends its line, the destination must end its line. -/
def target? (o : Open) (p : Place) : Option Place :=
  match gap? o p with
  | none => none
  | some (p, _) =>
      match destinationLength? p.rest with
      | none => none
      | some n =>
          let after := p.skip n
          match gap? o after with
          | none => some after
          | some (q, broken) =>
              if q.offset = after.offset then none
              else
                match finalTitle? o q with
                | some stop => some stop
                | none => if broken then some after else none

def read? (o : Open) (p : Place) : Option (Definition × Place) :=
  match p.rest with
  | '[' :: _ =>
      match label? o 0 [] (p.rest.length + 1) (p.skip 1) with
      | none => none
      | some (label, q) =>
          match q.rest with
          | ':' :: _ =>
              (target? o (q.skip 1)).map fun stop =>
                (⟨Text.fold label, ⟨p.offset, stop.offset⟩⟩, stop)
          | _ => none
  | _ => none

end Reference

end Markdown

end Tidymark
