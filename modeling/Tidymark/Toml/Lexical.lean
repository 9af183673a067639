import Tidymark.Config.Value
import Tidymark.Text.Digits

/-!
# TOML: strings, numbers, dates and keys

The parts of a TOML text that hold no other values.  Each reader takes what
stands at the start of a text and gives what follows it.
-/

namespace Tidymark

namespace Toml

def isBlank (c : Char) : Bool := c == ' ' || c == '\t'

def skipBlanks (s : Text) : Text := s.dropWhile isBlank

def isPlain (c : Char) : Bool :=
  c == '\t' || (0x20 ≤ c.toNat && c.toNat != 0x7F)

def newline? : Text → Option Text
  | '\n' :: s => some s
  | '\r' :: '\n' :: s => some s
  | _ => none

/-- What follows the rest of a line that holds nothing but blanks and a comment. -/
def endLine? (s : Text) : Option Text :=
  let s := skipBlanks s
  let s := match s with
    | '#' :: r => r.dropWhile isPlain
    | r => r
  if s.isEmpty then some [] else newline? s

def skipGaps (inComment : Bool) : Text → Text
  | [] => []
  | '\r' :: '\n' :: s => skipGaps false s
  | '\n' :: s => skipGaps false s
  | c :: s =>
      if inComment && isPlain c then skipGaps true s
      else if isBlank c then skipGaps inComment s
      else if !inComment && c == '#' then skipGaps true s
      else c :: s

def skipLines : Text → Text
  | [] => []
  | '\r' :: '\n' :: s => skipLines s
  | '\n' :: s => skipLines s
  | c :: s => if isBlank c then skipLines s else c :: s

/-! Strings -/

def escape? : Text → Option (Char × Text)
  | 'b' :: s => some ('\x08', s)
  | 't' :: s => some ('\t', s)
  | 'n' :: s => some ('\n', s)
  | 'f' :: s => some ('\x0c', s)
  | 'r' :: s => some ('\r', s)
  | '"' :: s => some ('"', s)
  | '\\' :: s => some ('\\', s)
  | 'u' :: s => codePoint? 4 s
  | 'U' :: s => codePoint? 8 s
  | _ => none
where
  codePoint? (digits : Nat) (s : Text) : Option (Char × Text) :=
    if s.length < digits then none
    else
      match Text.ofDigits? 16 (s.take digits) with
      | some n => if n.isValidChar then some (Char.ofNat n, s.drop digits) else none
      | none => none

/-- The text of a string of one line with escapes, read behind its opening quote; `fuel` bounds
its length. -/
def basic? : Nat → Text → Option (Text × Text)
  | 0, _ => none
  | fuel + 1, s =>
      match s with
      | [] => none
      | '"' :: r => some ([], r)
      | '\\' :: r => do
          let (c, r) ← escape? r
          let (t, r) ← basic? fuel r
          return (c :: t, r)
      | c :: r =>
          if isPlain c then (basic? fuel r).map fun (t, r) => (c :: t, r) else none

def literal? : Text → Option (Text × Text)
  | [] => none
  | c :: s =>
      if c = '\x27' then some ([], s)
      else if isPlain c then (literal? s).map fun (t, r) => (c :: t, r)
      else none

/-- How many of `n` quotes in a row belong to the content of a string of several lines, and
whether the others end it. -/
def closing (n : Nat) : Nat × Bool := if n < 3 then (n, false) else (min (n - 3) 2, true)

/-- The text of a string of several lines, read behind its opening quotes; escapes are read if
`escapes`, and `fuel` bounds the length. -/
def block? (quote : Char) (escapes : Bool) : Nat → Text → Option (Text × Text)
  | 0, _ => none
  | fuel + 1, s =>
      match s with
      | [] => none
      | c :: r =>
          if c = quote then
            let n := (s.takeWhile (· == quote)).length
            let (kept, closed) := closing n
            let quotes := List.replicate kept quote
            if closed then some (quotes, s.drop (kept + 3))
            else (block? quote escapes fuel (s.drop kept)).map fun (t, r) => (quotes ++ t, r)
          else if escapes && c == '\\' then
            match newline? (skipBlanks r) with
            | some r => block? quote escapes fuel (skipLines r)
            | none => do
                let (d, r) ← escape? r
                let (t, r) ← block? quote escapes fuel r
                return (d :: t, r)
          else
            match newline? s with
            | some r => (block? quote escapes fuel r).map fun (t, r) => ('\n' :: t, r)
            | none =>
                if isPlain c then (block? quote escapes fuel r).map fun (t, r) => (c :: t, r)
                else none

def string? (s : Text) : Option (Text × Text) :=
  match s with
  | '"' :: '"' :: '"' :: r => block? '"' true s.length ((newline? r).getD r)
  | '\x27' :: '\x27' :: '\x27' :: r => block? '\x27' false s.length ((newline? r).getD r)
  | '"' :: r => basic? s.length r
  | '\x27' :: r => literal? r
  | _ => none

/-! Keys -/

def isBare (c : Char) : Bool := c.isAlphanum || c == '_' || c == '-'

def keyPart? (s : Text) : Option (Text × Text) :=
  match s with
  | '"' :: r => basic? s.length r
  | '\x27' :: r => literal? r
  | _ =>
      let part := s.takeWhile isBare
      if part.isEmpty then none else some (part, s.drop part.length)

def keyWithin? : Nat → Text → Option (List Text × Text)
  | 0, _ => none
  | limit + 1, s => do
      let (part, r) ← keyPart? (skipBlanks s)
      match skipBlanks r with
      | '.' :: r =>
          let (parts, r) ← keyWithin? limit r
          return (part :: parts, r)
      | r => return ([part], r)

/-- How deeply lists and tables may be nested in a value, and of how many parts a key may be. -/
def nestingLimit : Nat := 79

def key? (s : Text) : Option (List Text × Text) := keyWithin? nestingLimit s

/-! Numbers -/

/-- Digits with underscores between some of them, given without the underscores. -/
def digits? (base : Nat) : Text → Option (Text × Text)
  | [] => none
  | c :: s =>
      if (Text.digit? base c).isNone then none
      else
        match s with
        | '_' :: r => (digits? base r).map fun (t, r) => (c :: t, r)
        | r =>
            match digits? base r with
            | some (t, r) => some (c :: t, r)
            | none => some ([c], r)

def whole? (n : Int) : Option Value :=
  let bound := Int.ofNat (1 <<< 63)
  if -bound ≤ n ∧ n < bound then
    some (.scalar { natural := if 0 ≤ n then some n.toNat else none, integer := some n })
  else none

def exponent? : Text → Option (Int × Text)
  | c :: s =>
      if c = 'e' ∨ c = 'E' then
        let (negative, s) := match s with
          | '+' :: r => (false, r)
          | '-' :: r => (true, r)
          | r => (false, r)
        do
          let (digits, r) ← digits? 10 s
          let n ← Text.ofDigits? 10 digits
          return (if negative then -n else n, r)
      else some (0, c :: s)
  | [] => some (0, [])

/-- Whether a whole number times a power of ten is nearer to infinity than to any number of 64
bits: whether it reaches the middle between the greatest of them and the next power of two. -/
def overflows (n : Nat) (power : Int) : Bool :=
  let size := (Nat.toDigits 10 n).length + power
  if n = 0 ∨ size < 300 then false
  else if 320 < size then true
  else
    (1 <<< 1024 - 1 <<< 970) * Nat.pow 10 (-power).toNat ≤ n * Nat.pow 10 power.toNat

/-- A number with a fraction or an exponent.  It stands for no setting. -/
def inexact? (negative : Bool) (digits : Text) (power : Int) : Option Value := do
  let n ← Text.ofDigits? 10 digits
  if !negative && overflows n power then none else some (.scalar {})

def decimal? (negative : Bool) (s : Text) : Option (Value × Text) := do
  let (digits, r) ← match s with
    | '0' :: r => some (['0'], r)
    | _ => digits? 10 s
  match r with
  | '.' :: f =>
      let (fraction, f) ← digits? 10 f
      let (power, rest) ← exponent? f
      let v ← inexact? negative (digits ++ fraction) (power - fraction.length)
      return (v, rest)
  | _ =>
      let (power, rest) ← exponent? r
      if rest.length < r.length then
        let v ← inexact? negative digits power
        return (v, rest)
      else
        let n ← Text.ofDigits? 10 digits
        let v ← whole? (if negative then -n else n)
        return (v, rest)

def special? (s : Text) : Option (Value × Text) :=
  match Text.after? "inf".toList s with
  | some r => some (.scalar {}, r)
  | none => (Text.after? "nan".toList s).map fun r => (.scalar {}, r)

def based? (base : Nat) (s : Text) : Option (Value × Text) := do
  let (digits, r) ← digits? base s
  let n ← Text.ofDigits? base digits
  let v ← whole? n
  return (v, r)

def number? (s : Text) : Option (Value × Text) :=
  match s with
  | '0' :: 'x' :: r => based? 16 r
  | '0' :: 'o' :: r => based? 8 r
  | '0' :: 'b' :: r => based? 2 r
  | '+' :: r => (special? r).or (decimal? false r)
  | '-' :: r => (special? r).or (decimal? true r)
  | _ => (special? s).or (decimal? false s)

/-! Dates and times -/

/-- What follows so many digits that make a number within bounds, and the number. -/
def field? (width least greatest : Nat) (s : Text) : Option (Nat × Text) := do
  if s.length < width then none
  else
    let n ← Text.ofDigits? 10 (s.take width)
    if least ≤ n ∧ n ≤ greatest then some (n, s.drop width) else none

def daysIn (year month : Nat) : Nat :=
  if month = 2 then
    if year % 4 = 0 ∧ (year % 100 ≠ 0 ∨ year % 400 = 0) then 29 else 28
  else if month = 4 ∨ month = 6 ∨ month = 9 ∨ month = 11 then 30
  else 31

def skipDay? (s : Text) : Option Text := do
  let (year, r) ← field? 4 0 9999 s
  let r ← Text.after? ['-'] r
  let (month, r) ← field? 2 1 12 r
  let r ← Text.after? ['-'] r
  let (_, r) ← field? 2 1 (daysIn year month) r
  return r

def skipTime? (s : Text) : Option Text := do
  let (_, r) ← field? 2 0 23 s
  let r ← Text.after? [':'] r
  let (_, r) ← field? 2 0 59 r
  let r ← Text.after? [':'] r
  let (_, r) ← field? 2 0 60 r
  match r with
  | '.' :: f =>
      let rest := f.dropWhile Char.isDigit
      if rest.length < f.length then return rest else none
  | _ => return r

def skipOffset? (s : Text) : Option Text :=
  match s with
  | [] => some []
  | c :: r =>
      if c = 'Z' ∨ c = 'z' then some r
      else if c = '+' ∨ c = '-' then do
        let (_, r) ← field? 2 0 23 r
        let r ← Text.after? [':'] r
        let (_, r) ← field? 2 0 59 r
        return r
      else some s

def skipDate? (s : Text) : Option Text :=
  match skipDay? s with
  | none => skipTime? s
  | some r =>
      match r with
      | c :: t =>
          if c = 'T' ∨ c = 't' ∨ c = ' ' then
            match skipTime? t with
            | some r => skipOffset? r
            | none => some (c :: t)
          else some (c :: t)
      | [] => some []

/-- A date as a value: a map with an entry that names no setting. -/
def date : Value := .map [(some [], .scalar {})]

def atom? (s : Text) : Option (Value × Text) :=
  match string? s with
  | some (t, r) => some (.scalar { text := some t }, r)
  | none =>
      match skipDate? s with
      | some r => some (date, r)
      | none =>
          match Text.after? "true".toList s with
          | some r => some (.scalar { flag := some true }, r)
          | none =>
              match Text.after? "false".toList s with
              | some r => some (.scalar { flag := some false }, r)
              | none => number? s

end Toml

end Tidymark
