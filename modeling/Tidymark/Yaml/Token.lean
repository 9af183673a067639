import Tidymark.Yaml.Scalar

/-!
# YAML: tokens

A text as tokens.  Indentation that grows opens a list or a map and
indentation that shrinks closes it, so behind this stage no indentation
matters.  What turns out to be a key by the colon behind it gets its mark
afterwards: such a key stands in one line and is not longer than 1024
characters.
-/

namespace Tidymark

namespace Yaml

inductive Token where
  | version (major minor : Text)
  | handle (handle expansion : Text)
  | documentStart
  | documentEnd
  /-- A list or a map opened by indentation, and its end. -/
  | openList
  | openMap
  | close
  | openBracket
  | closeBracket
  | openBrace
  | closeBrace
  | comma
  | dash
  | key
  | colon
  | alias (name : Text)
  | anchor (name : Text)
  | tag (handle suffix : Text)
  | scalar (text : Text) (plain : Bool)
  deriving DecidableEq, Repr

/-- Where a key may have started: how many tokens precede it, and whether a colon must follow. -/
structure Candidate where
  required : Bool
  tokens : Nat
  index : Nat
  line : Nat
  column : Nat

/-- The tokens read so far, newest first, and what decides about the next one. -/
structure Scan where
  place : Place
  tokens : List Token := []
  /-- The column of the innermost list or map opened by indentation. -/
  indent : Int := -1
  /-- The columns around it, innermost first. -/
  outer : List Int := []
  /-- Whether a key may start here. -/
  keyAllowed : Bool := true
  /-- The latest candidate outside brackets and within each open bracket, innermost first. -/
  candidates : List (Option Candidate) := [none]

namespace Scan

def inFlow (s : Scan) : Bool := 1 < s.candidates.length

def least (s : Scan) : Nat := (s.indent + 1).toNat

def add (t : Token) (s : Scan) : Scan := { s with tokens := t :: s.tokens }

def insert (n : Nat) (t : Token) (s : Scan) : Scan :=
  let newer := s.tokens.take (s.tokens.length - n)
  { s with tokens := newer ++ t :: s.tokens.drop (s.tokens.length - n) }

/-- Pass blanks, comments and line breaks.  Tabs are blanks only where no key may start or a
bracket is open. -/
def skipGap (inFlow : Bool) : Nat → Bool → Place → Bool × Place
  | 0, allowed, p => (allowed, p)
  | fuel + 1, allowed, p =>
      let p := p.skipWhile fun c => c == ' ' || ((inFlow || !allowed) && c == '\t')
      let p := p.skipComment
      match p.rest with
      | c :: _ =>
          if isBreak c then skipGap inFlow fuel (allowed || !inFlow) p.passBreak.2 else (allowed, p)
      | [] => (allowed, p)

def closeTo (column : Int) : List Int → Scan → Scan
  | [], s => s
  | o :: outer, s =>
      if column < s.indent then
        closeTo column outer { s.add .close with indent := o, outer := outer }
      else s

/-- Close lists and maps that are indented deeper than `column`, outside brackets. -/
def unroll (column : Int) (s : Scan) : Scan := if s.inFlow then s else closeTo column s.outer s

/-- Open a list or map at a column, if that is indented deeper, by a token behind the first
`n`. -/
def roll (column n : Nat) (t : Token) (s : Scan) : Scan :=
  if s.inFlow then s
  else if s.indent < column then
    { s.insert n t with indent := column, outer := s.indent :: s.outer }
  else s

/-- Give up the latest candidate, unless a colon must follow it. -/
def dropCandidate? (s : Scan) : Option Scan :=
  match s.candidates with
  | some k :: rest => if k.required then none else some { s with candidates := none :: rest }
  | _ => some s

def noteCandidate? (s : Scan) : Option Scan :=
  if s.keyAllowed then do
    let s ← s.dropCandidate?
    let p := s.place
    let k : Candidate :=
      ⟨!s.inFlow && s.indent == p.column, s.tokens.length, p.index, p.line, p.column⟩
    return { s with candidates := some k :: s.candidates.tail }
  else some s

def dropStale? (p : Place) : List (Option Candidate) → Option (List (Option Candidate))
  | [] => some []
  | none :: rest => (dropStale? p rest).map (none :: ·)
  | some k :: rest =>
      if k.line < p.line ∨ k.index + 1024 < p.index then
        if k.required then none else (dropStale? p rest).map (none :: ·)
      else (dropStale? p rest).map (some k :: ·)

def mark (n : Nat) (t : Token) (s : Scan) : Scan := { s.add t with place := s.place.skip n }

/-! Single tokens -/

def isName (c : Char) : Bool := c.isAlphanum || c == '_' || c == '-'

/-- A line between documents closes all indentation. -/
def documentMarker? (t : Token) (s : Scan) : Option Scan := do
  let s ← (s.unroll (-1)).dropCandidate?
  return { s with keyAllowed := false }.mark 3 t

/-- An opening bracket may itself start a key, and so may what follows it. -/
def openFlow? (t : Token) (s : Scan) : Option Scan := do
  let s ← s.noteCandidate?
  return { s with candidates := none :: s.candidates, keyAllowed := true }.mark 1 t

/-- A closing bracket ends the candidates within it. -/
def closeFlow? (t : Token) (s : Scan) : Option Scan := do
  let s ← s.dropCandidate?
  let candidates := match s.candidates with
    | _ :: outer :: rest => outer :: rest
    | outermost => outermost
  return { s with candidates := candidates, keyAllowed := false }.mark 1 t

def comma? (s : Scan) : Option Scan := do
  let s ← s.dropCandidate?
  return { s with keyAllowed := true }.mark 1 .comma

/-- A dash opens a list if it is indented deeper, and a key may start behind it. -/
def dash? (s : Scan) : Option Scan := do
  if !s.inFlow && !s.keyAllowed then none
  else
    let s ← (s.roll s.place.column s.tokens.length .openList).dropCandidate?
    return { s with keyAllowed := true }.mark 1 .dash

def key? (s : Scan) : Option Scan := do
  if !s.inFlow && !s.keyAllowed then none
  else
    let s ← (s.roll s.place.column s.tokens.length .openMap).dropCandidate?
    return { s with keyAllowed := !s.inFlow }.mark 1 .key

/-- A colon makes the latest candidate a key, or follows a key of any form. -/
def colon? (s : Scan) : Option Scan :=
  match s.candidates with
  | some k :: rest =>
      let s := (s.insert k.tokens .key).roll k.column k.tokens .openMap
      some ({ s with candidates := none :: rest, keyAllowed := false }.mark 1 .colon)
  | _ =>
      if !s.inFlow && !s.keyAllowed then none
      else
        let s := s.roll s.place.column s.tokens.length .openMap
        some ({ s with keyAllowed := !s.inFlow }.mark 1 .colon)

def named? (t : Text → Token) (s : Scan) : Option Scan := do
  let s ← s.noteCandidate?
  let p := s.place.skip 1
  let name := p.rest.takeWhile isName
  let behind := p.skip name.length
  let ended := match behind.rest with
    | c :: _ => endsWord behind.rest || "?:,]\x7d%@\x60".toList.contains c
    | [] => true
  if name.isEmpty || !ended then none
  else return { s.add (t name) with place := behind, keyAllowed := false }

def isTagChar (verbatim : Bool) (c : Char) : Bool :=
  isName c || ";/?:@&=+$.!~*\x27()%".toList.contains c || (verbatim && ",[]".toList.contains c)

/-- The bytes that follow a percent sign become characters. -/
def decodeTag? : Nat → Text → Option Text
  | 0, _ => none
  | _ + 1, [] => some []
  | fuel + 1, c :: s =>
      if c = '%' then
        match Text.ofDigits? 16 (s.take 2) with
        | some n =>
            if s.length < 2 ∨ 0x7F < n then none
            else (decodeTag? fuel (s.drop 2)).map (Char.ofNat n :: ·)
        | none => none
      else (decodeTag? fuel s).map (c :: ·)

def tagText? (verbatim : Bool) (p : Place) : Option (Text × Place) :=
  let raw := p.rest.takeWhile (isTagChar verbatim)
  (decodeTag? (raw.length + 1) raw).map fun t => (t, p.skip raw.length)

/-- The handle at a place: an exclamation mark, perhaps with a name and another one. -/
def handle? (p : Place) : Option (Text × Place) :=
  match p.rest with
  | '!' :: r =>
      let name := r.takeWhile isName
      match r.drop name.length with
      | '!' :: _ => some ('!' :: name ++ ['!'], p.skip (name.length + 2))
      | _ => some ('!' :: name, p.skip (name.length + 1))
  | _ => none

def tagToken? (p : Place) : Option (Token × Place) :=
  match p.rest with
  | '!' :: '<' :: _ => do
      let (suffix, q) ← tagText? true (p.skip 2)
      if suffix.isEmpty || q.rest.head? != some '>' then none
      else return (.tag [] suffix, q.skip 1)
  | _ => do
      let (handle, q) ← handle? p
      let (suffix, q) ← tagText? false q
      if 1 < handle.length ∧ handle.getLast? = some '!' then
        if suffix.isEmpty then none else return (.tag handle suffix, q)
      else
        let suffix := handle.tail ++ suffix
        if suffix.isEmpty then return (.tag [] ['!'], q) else return (.tag ['!'] suffix, q)

/-- A tag, which ends at a blank or, between brackets, at a comma. -/
def tag? (s : Scan) : Option Scan := do
  let s ← s.noteCandidate?
  let (t, behind) ← tagToken? s.place
  let ended := endsWord behind.rest || (s.inFlow && behind.rest.head? == some ',')
  if !ended then none else return { s.add t with place := behind, keyAllowed := false }

/-- A directive line. -/
def directive? (s : Scan) : Option Scan := do
  let s ← (s.unroll (-1)).dropCandidate?
  let p := s.place.skip 1
  let name := p.rest.takeWhile isName
  let p := p.skip name.length
  if name.isEmpty || !endsWord p.rest then none
  else
    let p := p.skipBlanks
    let (t, p) ← if name = "YAML".toList then version? p
      else if name = "TAG".toList then handleLine? p
      else none
    let p := p.skipBlanks.skipComment
    if !endsLine p.rest then none
    else return { s.add t with place := p.passBreak.2, keyAllowed := false }
where
  version? (p : Place) : Option (Token × Place) :=
    let major := p.rest.takeWhile Char.isDigit
    let p := p.skip major.length
    match p.rest with
    | '.' :: r =>
        let minor := r.takeWhile Char.isDigit
        if major.isEmpty || minor.isEmpty || 9 < major.length || 9 < minor.length then none
        else some (.version major minor, p.skip (minor.length + 1))
    | _ => none
  handleLine? (p : Place) : Option (Token × Place) := do
    let (handle, p) ← handle? p
    if (handle ≠ ['!'] ∧ handle.getLast? ≠ some '!') ∨ !(p.rest.head?.any isBlank) then none
    else
      let (expansion, p) ← tagText? true p.skipBlanks
      if expansion.isEmpty || !endsWord p.rest then none else return (.handle handle expansion, p)

def blockScalar? (literal : Bool) (s : Scan) : Option Scan := do
  let s ← s.dropCandidate?
  let (t, p) ← block? literal s.least (s.place.skip 1)
  return { s.add (.scalar t false) with place := p, keyAllowed := true }

def quotedScalar? (double : Bool) (s : Scan) : Option Scan := do
  let s ← s.noteCandidate?
  let (t, p) ← quoted? double (s.place.rest.length + 1) (s.place.skip 1)
  return { s.add (.scalar t false) with place := p, keyAllowed := false }

def plainScalar? (s : Scan) : Option Scan := do
  let s ← s.noteCandidate?
  let (t, broken, p) ← plain? s.inFlow s.least (s.place.rest.length + 1) s.place
  return { s.add (.scalar t true) with place := p, keyAllowed := broken }

def isIndicator (c : Char) : Bool := "-?:,[]\x7b\x7d#&*!|>\x27\"%@\x60".toList.contains c

def token? (s : Scan) : Option Scan :=
  let p := s.place
  match p.rest with
  | [] => none
  | c :: r =>
      if p.column = 0 ∧ c = '%' then s.directive?
      else if p.atDocumentStart then s.documentMarker? .documentStart
      else if p.atDocumentEnd then s.documentMarker? .documentEnd
      else if c = '[' then s.openFlow? .openBracket
      else if c = '\x7b' then s.openFlow? .openBrace
      else if c = ']' then s.closeFlow? .closeBracket
      else if c = '\x7d' then s.closeFlow? .closeBrace
      else if c = ',' then s.comma?
      else if c = '-' ∧ endsWord r then s.dash?
      else if c = '?' ∧ (s.inFlow ∨ endsWord r) then s.key?
      else if c = ':' ∧ (s.inFlow ∨ endsWord r) then s.colon?
      else if c = '*' then s.named? .alias
      else if c = '&' then s.named? .anchor
      else if c = '!' then s.tag?
      else if c = '|' ∧ !s.inFlow then s.blockScalar? true
      else if c = '>' ∧ !s.inFlow then s.blockScalar? false
      else if c = '\x27' then s.quotedScalar? false
      else if c = '"' then s.quotedScalar? true
      else if (!isBlank c && !isIndicator c) || (c == '-' && !(r.head?.any isBlank)) ||
          (!s.inFlow && (c == '?' || c == ':') && !endsWord r) then s.plainScalar?
      else none

/-- Read tokens to the end; `fuel` bounds their number. -/
def tokens? : Nat → Scan → Option (List Token)
  | 0, _ => none
  | fuel + 1, s => do
      let (allowed, p) := skipGap s.inFlow (s.place.rest.length + 1) s.keyAllowed s.place
      let candidates ← dropStale? p s.candidates
      let moved := { s with keyAllowed := allowed, place := p, candidates := candidates }
      let s := moved.unroll p.column
      if p.rest.isEmpty then do
        let s ← (s.unroll (-1)).dropCandidate?
        return s.tokens.reverse
      else do
        let s ← s.token?
        tokens? fuel s

end Scan

def Token.ofText? (s : Text) : Option (List Token) :=
  Scan.tokens? (s.length + 1) { place := ⟨s, 0, 0, 0⟩ }

end Yaml

end Tidymark
