import Tidymark.Config.Value
import Tidymark.Text.Digits

/-!
# JSON

Reading a JSON text as a settings value.  A string may hold escapes for halves
of surrogate pairs; one that stands alone leaves the string without a reading
as text, and is no fault as long as nobody asks for that text.
-/

namespace Tidymark

namespace Json

def isBlank (c : Char) : Bool := c == ' ' || c == '\n' || c == '\t' || c == '\r'

def skipBlanks (s : Text) : Text := s.dropWhile isBlank

def escape? (c : Char) : Option Nat :=
  if c = '"' ∨ c = '\\' ∨ c = '/' then some c.toNat
  else if c = 'b' then some 8
  else if c = 'f' then some 12
  else if c = 'n' then some 10
  else if c = 'r' then some 13
  else if c = 't' then some 9
  else none

/-- The code points of a string, surrogates included, and what follows the closing quote. -/
def units? : Text → Option (List Nat × Text)
  | [] => none
  | '"' :: s => some ([], s)
  | '\\' :: 'u' :: c₃ :: c₂ :: c₁ :: c₀ :: s => do
      let n ← Text.ofDigits? 16 [c₃, c₂, c₁, c₀]
      let (units, rest) ← units? s
      return (n :: units, rest)
  | '\\' :: c :: s => do
      let n ← escape? c
      let (units, rest) ← units? s
      return (n :: units, rest)
  | c :: s =>
      if c.toNat < 0x20 then none
      else do
        let (units, rest) ← units? s
        return (c.toNat :: units, rest)

def isLead (n : Nat) : Bool := 0xD800 ≤ n && n < 0xDC00

def isTrail (n : Nat) : Bool := 0xDC00 ≤ n && n < 0xE000

/-- The text of code points, in which a lead and a trail surrogate make one character. -/
def text? : List Nat → Option Text
  | [] => some []
  | [n] => if isLead n || isTrail n then none else some [Char.ofNat n]
  | n :: m :: rest =>
      if isLead n then
        if isTrail m then
          (text? rest).map (Char.ofNat (0x10000 + (n - 0xD800) * 0x400 + (m - 0xDC00)) :: ·)
        else none
      else if isTrail n then none
      else (text? (m :: rest)).map (Char.ofNat n :: ·)

def skipDigits? (s : Text) : Option Text :=
  match s with
  | c :: _ => if c.isDigit then some (s.dropWhile Char.isDigit) else none
  | [] => none

def skipFraction? : Text → Option Text
  | '.' :: s => skipDigits? s
  | s => some s

def skipExponent? : Text → Option Text
  | c :: s =>
      if c = 'e' ∨ c = 'E' then
        match s with
        | sign :: r => if sign = '+' ∨ sign = '-' then skipDigits? r else skipDigits? (sign :: r)
        | [] => none
      else some (c :: s)
  | [] => some []

/-- Read a number.  It has readings as a whole number only if it is written without fraction and
exponent and is not a negative zero. -/
def number? (s : Text) : Option (Value × Text) := do
  let (negative, s) := match s with
    | '-' :: r => (true, r)
    | r => (false, r)
  let digits := s.takeWhile Char.isDigit
  let n ← Text.ofDigits? 10 digits
  if digits.length ≠ 1 ∧ digits.head? = some '0' then none
  else
    let whole := s.drop digits.length
    let rest ← (skipFraction? whole).bind skipExponent?
    if rest.length ≠ whole.length ∨ (negative ∧ n = 0) then some (.scalar {}, rest)
    else if negative then some (.scalar { integer := some (-n) }, rest)
    else some (.scalar { natural := some n, integer := some n }, rest)

def name? (s : Text) : Option (Value × Text) :=
  match Text.after? "true".toList s with
  | some rest => some (.scalar { flag := some true }, rest)
  | none =>
      match Text.after? "false".toList s with
      | some rest => some (.scalar { flag := some false }, rest)
      | none => (Text.after? "null".toList s).map fun rest => (.scalar { void := true }, rest)

mutual

/-- Read a value; `fuel` bounds the number of steps. -/
def value? : Nat → Text → Option (Value × Text)
  | 0, _ => none
  | fuel + 1, s =>
      match skipBlanks s with
      | '{' :: r =>
          match skipBlanks r with
          | '}' :: r => some (.map [], r)
          | r => (members? fuel r).map fun (entries, r) => (.map entries, r)
      | '[' :: r =>
          match skipBlanks r with
          | ']' :: r => some (.list [], r)
          | r => (elements? fuel r).map fun (values, r) => (.list values, r)
      | '"' :: r => (units? r).map fun (units, r) => (.scalar { text := text? units }, r)
      | r =>
          match name? r with
          | some found => some found
          | none => number? r

def elements? : Nat → Text → Option (List Value × Text)
  | 0, _ => none
  | fuel + 1, s => do
      let (v, r) ← value? fuel s
      match skipBlanks r with
      | ',' :: r =>
          let (values, r) ← elements? fuel r
          return (v :: values, r)
      | ']' :: r => return ([v], r)
      | _ => none

def members? : Nat → Text → Option (List (Option Text × Value) × Text)
  | 0, _ => none
  | fuel + 1, s =>
      match skipBlanks s with
      | '"' :: r => do
          let (units, r) ← units? r
          match skipBlanks r with
          | ':' :: r =>
              let (v, r) ← value? fuel r
              match skipBlanks r with
              | ',' :: r =>
                  let (entries, r) ← members? fuel r
                  return ((text? units, v) :: entries, r)
              | '}' :: r => return ([(text? units, v)], r)
              | _ => none
          | _ => none
      | _ => none

end

/-- What JSON decides about values: nothing but null may stand behind the name of a style, and
every element of a section given as a list has a meaning. -/
def dialect : Dialect where
  allowsBehindStyle := Value.isVoid
  blankCollections := false
  surplus := false

end Json

def Value.ofJson? (s : Text) : Option Value :=
  match Json.value? (2 * s.length + 2) s with
  | some (v, rest) => if (Json.skipBlanks rest).isEmpty then some v else none
  | none => none

end Tidymark
