import Tidymark.Config.Value
import Tidymark.Text.Digits

/-!
# YAML: readings of scalars without quotes

What a text without quotes can be read as: nothing, a flag, a whole number.
-/

namespace Tidymark

namespace Yaml

def isVoid (s : Text) : Bool :=
  s.isEmpty || s == ['~'] || s == "null".toList || s == "Null".toList || s == "NULL".toList

def flag? (s : Text) : Option Bool :=
  if s == "true".toList || s == "True".toList || s == "TRUE".toList then some true
  else if s == "false".toList || s == "False".toList || s == "FALSE".toList then some false
  else none

/-- A number without sign: in base sixteen, eight or two, or in base ten without leading zeros. -/
def magnitude? (s : Text) : Option Nat :=
  match s with
  | '0' :: 'x' :: r => Text.ofDigits? 16 r
  | '0' :: 'o' :: r => Text.ofDigits? 8 r
  | '0' :: 'b' :: r => Text.ofDigits? 2 r
  | '0' :: _ :: _ => none
  | _ => Text.ofDigits? 10 s

def natural? (s : Text) : Option Nat :=
  match s with
  | '+' :: r => magnitude? r
  | _ => magnitude? s

def integer? (s : Text) : Option Int :=
  match s with
  | '-' :: r => (magnitude? r).map fun n => -n
  | _ => (natural? s).map fun n => n

def plainScalar (s : Text) : Scalar where
  text := some s
  flag := flag? s
  natural := natural? s
  integer := integer? s
  void := isVoid s

/-- The readings of a scalar that a tag says to be of a kind. -/
def ofKind (tag : Option Text) (s : Scalar) : Scalar :=
  match tag with
  | some ['!'] => { s with kind := some ['!'] }
  | some ('!' :: kind) => { s with kind := some kind }
  | _ => s

end Yaml

end Tidymark
