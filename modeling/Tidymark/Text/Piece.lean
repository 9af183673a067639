import Tidymark.Text

/-!
# Cutting a text into pieces

A pattern cuts a non-empty beginning off some texts.  Applied from left to
right it splits a whole text into what it finds and the plain stretches
between; the pieces joined again are the text.
-/

namespace Tidymark

structure Span where
  start : Nat
  stop : Nat
  deriving DecidableEq, Repr, Inhabited

/-- A part of a text: plain characters, or something found in it. -/
inductive Piece (α : Type) where
  | plain (s : Text)
  | found (a : α)
  deriving DecidableEq, Repr

namespace Piece

variable {α : Type}

def text (source : α → Text) : Piece α → Text
  | .plain s => s
  | .found a => source a

def textOf (source : α → Text) : List (Piece α) → Text
  | [] => []
  | p :: ps => p.text source ++ textOf source ps

/-- Put a plain stretch in front, making one piece with plain text that follows. -/
def consPlain (s : Text) : List (Piece α) → List (Piece α)
  | .plain t :: ps => .plain (s ++ t) :: ps
  | ps => .plain s :: ps

@[simp] theorem textOf_consPlain (source : α → Text) (s : Text) (ps : List (Piece α)) :
    textOf source (consPlain s ps) = s ++ textOf source ps := by
  cases ps with
  | nil => rfl
  | cons p ps => cases p <;> simp [consPlain, textOf, text]

def finds : List (Piece α) → List α
  | [] => []
  | .plain _ :: ps => finds ps
  | .found a :: ps => a :: finds ps

/-- The byte ranges of what was found, counted from `offset`. -/
def spans (source : α → Text) (offset : Nat) : List (Piece α) → List Span
  | [] => []
  | .plain s :: ps => spans source (offset + Text.byteSize s) ps
  | .found a :: ps =>
      let stop := offset + Text.byteSize (source a)
      ⟨offset, stop⟩ :: spans source stop ps

def mapText (plain : Text → Text) (found : α → Text) : List (Piece α) → Text
  | [] => []
  | .plain s :: ps => plain s ++ mapText plain found ps
  | .found a :: ps => found a ++ mapText plain found ps

end Piece

/-- A way to read something off the start of some texts: what was read accounts for a
non-empty beginning. -/
structure Pattern (α : Type) where
  read : Text → Option (α × Text)
  source : α → Text
  append_of_read : ∀ {s a rest}, read s = some (a, rest) → s = source a ++ rest
  source_ne_nil : ∀ {s a rest}, read s = some (a, rest) → source a ≠ []

namespace Pattern

variable {α : Type}

theorem length_of_read (p : Pattern α) {s rest : Text} {a : α}
    (h : p.read s = some (a, rest)) : rest.length < s.length := by
  have ha := List.length_pos_iff.mpr (p.source_ne_nil h)
  rw [p.append_of_read h, List.length_append]
  omega

/-- The pieces of a text: at each place the pattern is tried before the
character there is taken as plain. -/
def pieces (p : Pattern α) : Text → List (Piece α)
  | [] => []
  | c :: s =>
      match _h : p.read (c :: s) with
      | some (a, rest) => .found a :: pieces p rest
      | none => Piece.consPlain [c] (pieces p s)
termination_by s => s.length
decreasing_by
  · exact p.length_of_read _h
  · simp

@[simp] theorem textOf_pieces (p : Pattern α) (s : Text) :
    Piece.textOf p.source (p.pieces s) = s := by
  fun_induction pieces p s with
  | case1 => rfl
  | case2 c s a rest h ih => simp [Piece.textOf, Piece.text, ih, p.append_of_read h]
  | case3 c s h ih => simp [ih]

def findAll (p : Pattern α) (s : Text) : List α := Piece.finds (p.pieces s)

def occursIn (p : Pattern α) (s : Text) : Bool := !(p.findAll s).isEmpty

def ranges (p : Pattern α) (s : Text) : List Span := Piece.spans p.source 0 (p.pieces s)

def replace (p : Pattern α) (f : α → Text) (s : Text) : Text :=
  Piece.mapText id f (p.pieces s)

end Pattern

end Tidymark
