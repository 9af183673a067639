import Tidymark.Failure

/-!
# Settings values

What a settings file holds before it is known to describe settings: scalars,
lists and maps.  A scalar is known by the readings it admits, so `true`
without quotes may be both a flag and a text.
-/

namespace Tidymark

/-- The readings a scalar admits. -/
structure Scalar where
  text : Option Text := none
  flag : Option Bool := none
  natural : Option Nat := none
  integer : Option Int := none
  /-- Whether the scalar stands for nothing. -/
  void : Bool := false
  /-- The name of a kind that the scalar is said to be of. -/
  kind : Option Text := none
  deriving DecidableEq, Repr, Inhabited

def Scalar.isBlank (s : Scalar) : Bool := s.void && s.text == some []

/-- A settings value.  A key that is no text has none. -/
inductive Value where
  | scalar (s : Scalar)
  | list (values : List Value)
  | map (entries : List (Option Text × Value))
  deriving Repr, Inhabited

namespace Value

def text? : Value → Option Text
  | .scalar s => s.text
  | _ => none

def flag? : Value → Option Bool
  | .scalar s => s.flag
  | _ => none

def natural? : Value → Option Nat
  | .scalar s => s.natural
  | _ => none

def integer? : Value → Option Int
  | .scalar s => s.integer
  | _ => none

def isVoid : Value → Bool
  | .scalar s => s.void
  | _ => false

def isEmptyCollection : Value → Bool
  | .list [] => true
  | .map [] => true
  | _ => false

end Value

/-- What a settings format decides about values. -/
structure Dialect where
  /-- What may stand behind the name of a style that is given as a map of one entry. -/
  allowsBehindStyle : Value → Bool
  /-- Whether an empty text without quotes stands for an empty list or map. -/
  blankCollections : Bool
  /-- Whether a section given as a list may have more elements than it has settings. -/
  surplus : Bool

end Tidymark
