import Tidymark.Text.Case
import Tidymark.Yaml.Plain
import Tidymark.Yaml.Place

/-!
# YAML: writing texts

A text is written without quotes if it then reads back as this text.
Otherwise it is put between single quotes, a text of several lines into a
literal block, and one that holds characters which are not printable, or
blanks that the other forms lose, between double quotes.
-/

namespace Tidymark

namespace Yaml

def isFractional (s : Text) : Bool :=
  let unsigned := match s with
    | '+' :: r => r
    | '-' :: r => r
    | r => r
  let whole := unsigned.takeWhile Char.isDigit
  let behind := unsigned.drop whole.length
  let (places, behind) := match behind with
    | '.' :: r => (r.takeWhile Char.isDigit, r.dropWhile Char.isDigit)
    | r => ([], r)
  let exponent := match behind with
    | [] => true
    | e :: r =>
        let digits := match r with
          | sign :: d => if sign = '+' ∨ sign = '-' then d else sign :: d
          | [] => []
        (e == 'e' || e == 'E') && !digits.isEmpty && digits.all Char.isDigit
  (exponent && !(whole.isEmpty && places.isEmpty)) ||
    [".inf", ".Inf", ".INF"].contains (String.ofList unsigned) ||
    [".nan", ".NaN", ".NAN"].contains (String.ofList s)

/-- Whether a text without quotes reads as something else than a text. -/
def isAmbiguous (s : Text) : Bool :=
  let digits := match s with
    | '+' :: r => r
    | '-' :: r => r
    | r => r
  isVoid s || (flag? s).isSome || (natural? s).isSome || (integer? s).isSome || isFractional s ||
    (1 < digits.length && digits.all Char.isDigit)

def isPrintable (c : Char) : Bool :=
  let n := c.toNat
  n == 0x0A || (0x20 ≤ n && n ≤ 0x7E) || (0xA0 ≤ n && n ≤ 0xFFFD && n != 0xFEFF)

/-- Whether a character, followed by `next`, means something else where a text starts. -/
def opensMark (c : Char) (next : Text) : Bool :=
  "#,[]\x7b\x7d&*!|>\x27\"%@\x60".toList.contains c ||
    ((c == '?' || c == ':' || c == '-') && endsWord next)

/-- Whether a mark stands within a text behind the character `before`: a colon in front of a
blank or a hash behind one. -/
def holdsMark (before : Char) : Text → Bool
  | [] => false
  | c :: s =>
      (c == ':' && endsWord s) || (c == '#' && (isBlank before || isBreak before)) || holdsMark c s

/-- Whether a text keeps its meaning without quotes. -/
def isSafe (s : Text) : Bool :=
  match s with
  | [] => false
  | c :: r =>
      !(opensMark c r || holdsMark c r || c == ' ' || s.getLast? == some ' ' ||
        (Text.after? "---".toList s).isSome || (Text.after? "...".toList s).isSome ||
        s.any fun c => isBreak c)

def needsEscapes : Text → Bool
  | [] => false
  | c :: s =>
      !isPrintable c || (c == ' ' && (match s with | d :: _ => isBreak d | [] => false)) ||
        needsEscapes s

def hexDigits (width n : Nat) : Text :=
  let digits := (Nat.toDigits 16 n).map Char.toUpper
  List.replicate (width - digits.length) '0' ++ digits

def escaped (c : Char) : Text :=
  let n := c.toNat
  if c = '"' ∨ c = '\\' then ['\\', c]
  else if isPrintable c && !isBreak c then [c]
  else if n = 0 then "\\0".toList
  else if n = 7 then "\\a".toList
  else if n = 8 then "\\b".toList
  else if n = 9 then "\\t".toList
  else if n = 10 then "\\n".toList
  else if n = 11 then "\\v".toList
  else if n = 12 then "\\f".toList
  else if n = 13 then "\\r".toList
  else if n = 0x1B then "\\e".toList
  else if n = 0x85 then "\\N".toList
  else if n = 0x2028 then "\\L".toList
  else if n = 0x2029 then "\\P".toList
  else if n ≤ 0xFF then "\\x".toList ++ hexDigits 2 n
  else if n ≤ 0xFFFF then "\\u".toList ++ hexDigits 4 n
  else "\\U".toList ++ hexDigits 8 n

def doubleQuoted (s : Text) : Text := '"' :: s.flatMap escaped ++ ['"']

def singleQuoted (s : Text) : Text :=
  '\x27' :: s.flatMap (fun c => if c = '\x27' then [c, c] else [c]) ++ ['\x27']

def literalBlock (indent : Nat) (s : Text) : Text :=
  let hint := match s with
    | c :: _ => if c = ' ' ∨ c = '\n' then ['2'] else []
    | [] => []
  let ended := s.getLast? == some '\n'
  let chomping :=
    if !ended then ['-']
    else if s.dropLast.isEmpty || s.dropLast.getLast? == some '\n' then ['+'] else []
  let content := if ended then s.dropLast else s
  let lines := (Text.lines content).map fun line =>
    if line.isEmpty then [] else List.replicate indent ' ' ++ line
  '|' :: hint ++ chomping ++ '\n' :: Text.joinLines lines

/-- A text as a scalar whose further lines, if there are any, are indented by `indent`. -/
def written (indent : Nat) (s : Text) : Text :=
  if s.contains '\n' then
    if needsEscapes s || s.getLast? == some ' ' then doubleQuoted s else literalBlock indent s
  else if needsEscapes s then doubleQuoted s
  else if isAmbiguous s || !isSafe s then singleQuoted s
  else s

end Yaml

end Tidymark
