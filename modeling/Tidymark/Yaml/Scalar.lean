import Tidymark.Text.Digits
import Tidymark.Yaml.Place

/-!
# YAML: the text of scalars

Scalars without quotes, between quotes, and in blocks.  A single line break
within a scalar becomes a space, and of more than one the first is dropped;
in literal blocks all are kept.
-/

namespace Tidymark

namespace Yaml

/-- Line breaks folded, the first being given apart. -/
def foldBreaks (first breaks : Text) : Text :=
  if first = ['\n'] then if breaks.isEmpty then [' '] else breaks else first ++ breaks

/-- Blanks and line breaks within a scalar: the text they stand for, whether there is a line
break, and the place behind.  Of the two texts held, `blanks` counts only while no line break has
been seen.  A tab in front of column `least` is refused. -/
def gap? (least : Nat) : Nat → (blanks : Text) → (broken : Option (Text × Text)) → Place →
    Option (Text × Bool × Place)
  | 0, _, _, _ => none
  | fuel + 1, blanks, broken, p =>
      match p.rest with
      | c :: _ =>
          if isBlank c then
            match broken with
            | some _ =>
                if c = '\t' ∧ p.column < least then none
                else gap? least fuel blanks broken (p.skip 1)
            | none => gap? least fuel (blanks ++ [c]) broken (p.skip 1)
          else if isBreak c then
            let (b, next) := p.passBreak
            match broken with
            | some (first, breaks) => gap? least fuel blanks (some (first, breaks ++ b)) next
            | none => gap? least fuel blanks (some (b, [])) next
          else finish blanks broken p
      | [] => finish blanks broken p
where
  finish (blanks : Text) (broken : Option (Text × Text)) (p : Place) :
      Option (Text × Bool × Place) :=
    match broken with
    | some (first, breaks) => some (foldBreaks first breaks, true, p)
    | none => some (blanks, false, p)

/-! Without quotes -/

def isFlowMark (c : Char) : Bool := c == ',' || c == '[' || c == ']' || c == '{' || c == '}'

/-- The length of the word at the start of a text.  Between brackets, a colon must not stand in
front of a mark. -/
def wordLength? (inFlow : Bool) : Text → Option Nat
  | [] => some 0
  | c :: s =>
      if isBlank c || isBreak c then some 0
      else if c == ':' && endsWord s then some 0
      else if inFlow && c == ':' &&
          (match s with | d :: _ => isFlowMark d || d == '?' | [] => false) then none
      else if inFlow && isFlowMark c then some 0
      else (wordLength? inFlow s).map (· + 1)

/-- A scalar without quotes: its text, whether a line break follows it, and the place behind.
Outside brackets, its lines are indented to column `least`. -/
def plain? (inFlow : Bool) (least : Nat) : Nat → Place → Option (Text × Bool × Place)
  | 0, _ => none
  | fuel + 1, p =>
      if p.atDocumentMarker || p.rest.head? == some '#' then some ([], false, p)
      else do
        let n ← wordLength? inFlow p.rest
        let word := p.rest.take n
        let behind := p.skip n
        if behind.rest.isEmpty || !endsWord behind.rest then some (word, false, behind)
        else do
          let (gap, broken, next) ← gap? least (behind.rest.length + 1) [] none behind
          if !inFlow && next.column < least then some (word, broken, next)
          else do
            let (more, brokenBehind, stop) ← plain? inFlow least fuel next
            if more.isEmpty then some (word, broken, stop)
            else some (word ++ gap ++ more, brokenBehind, stop)

/-! Between quotes -/

def escapeChar? (c : Char) : Option Char :=
  if c = '0' then some '\x00'
  else if c = 'a' then some '\x07'
  else if c = 'b' then some '\x08'
  else if c = 't' ∨ c = '\t' then some '\t'
  else if c = 'n' then some '\n'
  else if c = 'v' then some '\x0b'
  else if c = 'f' then some '\x0c'
  else if c = 'r' then some '\r'
  else if c = 'e' then some '\x1b'
  else if c = ' ' ∨ c = '"' ∨ c = '/' ∨ c = '\\' then some c
  else if c = 'N' then some '\u0085'
  else if c = '_' then some '\u00a0'
  else if c = 'L' then some '\u2028'
  else if c = 'P' then some '\u2029'
  else none

def escapeDigits (c : Char) : Nat :=
  if c = 'x' then 2 else if c = 'u' then 4 else if c = 'U' then 8 else 0

def escape? : Text → Option (Char × Nat)
  | [] => none
  | c :: s =>
      match escapeChar? c with
      | some d => some (d, 1)
      | none =>
          let n := escapeDigits c
          if n = 0 ∨ s.length < n then none
          else
            match Text.ofDigits? 16 (s.take n) with
            | some code => if code.isValidChar then some (Char.ofNat code, n + 1) else none
            | none => none

/-- The text of a scalar between quotes, read behind the opening one.  Between double quotes a
backslash starts an escape; between single ones a quote is written twice. -/
def quoted? (double : Bool) : Nat → Place → Option (Text × Place)
  | 0, _ => none
  | fuel + 1, p =>
      if p.atDocumentMarker then none
      else
        match p.rest with
        | [] => none
        | c :: s =>
            if !double && c == '\x27' then
              match s with
              | d :: _ =>
                  if d = '\x27' then (quoted? double fuel (p.skip 2)).map fun (t, q) => (c :: t, q)
                  else some ([], p.skip 1)
              | [] => some ([], p.skip 1)
            else if double && c == '"' then some ([], p.skip 1)
            else if double && c == '\\' then
              if !s.isEmpty && endsLine s then do
                let behind := (p.skip 1).passBreak.2
                let (gap, _, next) ← gap? 0 (s.length + 1) [] (some ([], [])) behind
                let (t, q) ← quoted? double fuel next
                return (gap ++ t, q)
              else do
                let (d, n) ← escape? s
                let (t, q) ← quoted? double fuel (p.skip (n + 1))
                return (d :: t, q)
            else if isBlank c || isBreak c then do
              let (gap, _, next) ← gap? 0 (s.length + 2) [] none p
              let (t, q) ← quoted? double fuel next
              return (gap ++ t, q)
            else (quoted? double fuel (p.skip 1)).map fun (t, q) => (c :: t, q)

/-! In blocks -/

/-- What happens to the line breaks at the end of a block. -/
inductive Chomping where
  | strip
  | clip
  | keep
  deriving DecidableEq

/-- The header of a block behind its mark: chomping, the indentation if it is given, and the
place behind. -/
def blockHeader? (p : Place) : Option (Chomping × Option Nat × Place) :=
  match chomping? p with
  | some (chomping, p) =>
      match indentation? p with
      | none => none
      | some (indent, p) => some (chomping, indent, p)
  | none =>
      match indentation? p with
      | none => none
      | some (indent, p) =>
          match chomping? p with
          | some (chomping, p) => some (chomping, indent, p)
          | none => some (.clip, indent, p)
where
  chomping? (p : Place) : Option (Chomping × Place) :=
    match p.rest with
    | '-' :: _ => some (.strip, p.skip 1)
    | '+' :: _ => some (.keep, p.skip 1)
    | _ => none
  indentation? (p : Place) : Option (Option Nat × Place) :=
    match p.rest with
    | c :: _ =>
        if c = '0' then none
        else if c.isDigit then some (some (c.toNat - 48), p.skip 1)
        else some (none, p)
    | [] => some (none, p)

/-- The blank lines in front of a line of a block: the indentation of the block, which the
deepest of them may settle, their line breaks, and the place behind the indentation. -/
def blankLines? (least : Nat) : Nat → (indent : Option Nat) → (deepest : Nat) → (breaks : Text) →
    Place → Option (Nat × Text × Place)
  | 0, _, _, _, _ => none
  | fuel + 1, indent, deepest, breaks, p =>
      let p := match indent with
        | some n => p.skip (min (n - p.column) (p.rest.takeWhile (· == ' ')).length)
        | none => p.skipWhile (· == ' ')
      let deepest := max deepest p.column
      let before := match indent with
        | some n => p.column < n
        | none => true
      if before && p.rest.head? == some '\t' then none
      else if !p.rest.isEmpty && endsLine p.rest then
        let (b, next) := p.passBreak
        blankLines? least fuel indent deepest (breaks ++ b) next
      else some (indent.getD (max deepest (max least 1)), breaks, p)

/-- The lines of a block with the indentation `indent`, behind the line break `first` and the
breaks of blank lines: their text, the breaks that end it, and the place behind. -/
def blockLines? (literal : Bool) (indent : Nat) : Nat → (first breaks : Text) →
    (blankBefore : Bool) → Place → Option (Text × Text × Text × Place)
  | 0, _, _, _, _ => none
  | fuel + 1, first, breaks, blankBefore, p =>
      if p.column = indent ∧ p.rest ≠ [] then do
        let blank := match p.rest with
          | c :: _ => isBlank c
          | [] => false
        let folded := !literal && first == ['\n'] && !blankBefore && !blank
        let gap := if folded then if breaks.isEmpty then [' '] else breaks else first ++ breaks
        let line := p.rest.takeWhile fun c => !isBreak c
        let (b, next) := p.skipLine.passBreak
        let (_, breaks, next) ← blankLines? 0 (next.rest.length + 1) (some indent) 0 [] next
        let (t, first, breaks, stop) ← blockLines? literal indent fuel b breaks blank next
        return (gap ++ line ++ t, first, breaks, stop)
      else some ([], first, breaks, p)

/-- The text of a block scalar, read behind its mark.  Without an indentation of its own it is
indented to column `least` or deeper. -/
def block? (literal : Bool) (least : Nat) (p : Place) : Option (Text × Place) := do
  let (chomping, given, p) ← blockHeader? p
  let p := p.skipBlanks.skipComment
  if !endsLine p.rest then none
  else
    let p := p.passBreak.2
    let given := given.map fun n => if least = 0 then n else least - 1 + n
    let (indent, breaks, p) ← blankLines? least (p.rest.length + 1) given 0 [] p
    let (t, first, breaks, stop) ← blockLines? literal indent (p.rest.length + 1) [] breaks false p
    let ending := match chomping with
      | .strip => []
      | .clip => first
      | .keep => first ++ breaks
    return (t ++ ending, stop)

end Yaml

end Tidymark
