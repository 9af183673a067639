import Tidymark.Markdown.EntityNames
import Tidymark.Markdown.Line

/-!
# Character references

A reference stands for a character by its number, in decimal or hexadecimal
digits, or by a name.  Unescaping replaces references, takes backslashes from
punctuation and drops carriage returns.
-/

namespace Tidymark

namespace Entity

def isHexDigit (c : Char) : Bool :=
  c.isDigit || ('a' ≤ c && c ≤ 'f') || ('A' ≤ c && c ≤ 'F')

def hexValue (c : Char) : Nat :=
  if c.isDigit then c.toNat - 48 else c.toLower.toNat - 87

/-- The character with a number; NUL and numbers without a character give the replacement. -/
def ofNumber (n : Nat) : Char :=
  if n ≠ 0 ∧ n.isValidChar then Char.ofNat n else '\ufffd'

def number? (most : Nat) (isDigit : Char → Bool) (base : Nat) (value : Char → Nat) (s : Text) :
    Option (Char × Text) :=
  let digits := (s.take most).takeWhile isDigit
  match s.drop digits.length with
  | ';' :: r =>
      if digits.isEmpty then none
      else some (ofNumber (digits.foldl (fun n c => n * base + value c) 0), r)
  | _ => none

def read? (s : Text) : Option (Text × Text) :=
  match s with
  | '#' :: 'x' :: r | '#' :: 'X' :: r =>
      (number? 6 isHexDigit 16 hexValue r).map fun (c, r) => ([c], r)
  | '#' :: r => (number? 7 Char.isDigit 10 hexValue r).map fun (c, r) => ([c], r)
  | _ =>
      let name := s.takeWhile Char.isAlphanum
      match s.drop name.length with
      | ';' :: r => (named? name).map fun ns => (ns.map Char.ofNat, r)
      | _ => none

/-- A text with its references and escapes resolved; `fuel` bounds its length. -/
def unescapeWithin : Nat → Text → Text
  | 0, _ => []
  | _ + 1, [] => []
  | fuel + 1, '\\' :: c :: s =>
      if Markdown.isPunctuation c then c :: unescapeWithin fuel s
      else '\\' :: unescapeWithin fuel (c :: s)
  | fuel + 1, '&' :: s =>
      match read? s with
      | some (value, r) => value ++ unescapeWithin fuel r
      | none => '&' :: unescapeWithin fuel s
  | fuel + 1, '\r' :: s => unescapeWithin fuel s
  | fuel + 1, c :: s => c :: unescapeWithin fuel s

def unescape (s : Text) : Text := unescapeWithin (s.length + 1) s

end Entity

end Tidymark
