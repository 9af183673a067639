/-!
# Texts and their lines

A text is a list of characters.  Its lines are what its line feeds separate,
so a text has one line more than it has line feeds, and joining the lines
gives the text back.  Sizes and offsets that leave the library are counted in
bytes of UTF-8.
-/

namespace Tidymark

/-- A text as the list of its characters. -/
abbrev Text := List Char

namespace Text

def byteSize : Text → Nat
  | [] => 0
  | c :: s => c.utf8Size + byteSize s

@[simp] theorem byteSize_append (s t : Text) :
    byteSize (s ++ t) = byteSize s + byteSize t := by
  induction s with
  | nil => simp [byteSize]
  | cons c s ih => simp [byteSize, ih, Nat.add_assoc]

def consFirst (c : Char) : List Text → List Text
  | [] => [[c]]
  | line :: rest => (c :: line) :: rest

/-- The lines of a text, without their line feeds. -/
def lines : Text → List Text
  | [] => [[]]
  | c :: s => if c = '\n' then [] :: lines s else consFirst c (lines s)

theorem lines_ne_nil (s : Text) : lines s ≠ [] := by
  cases s with
  | nil => simp [lines]
  | cons c s =>
      unfold lines
      split
      · simp
      · cases lines s <;> simp [consFirst]

def joinLines : List Text → Text
  | [] => []
  | [line] => line
  | line :: next :: rest => line ++ '\n' :: joinLines (next :: rest)

theorem joinLines_nil_cons (line : Text) (rest : List Text) :
    joinLines ([] :: line :: rest) = '\n' :: joinLines (line :: rest) := rfl

theorem joinLines_consFirst (c : Char) (ls : List Text) :
    joinLines (consFirst c ls) = c :: joinLines ls := by
  cases ls with
  | nil => rfl
  | cons line rest => cases rest <;> rfl

@[simp] theorem joinLines_lines (s : Text) : joinLines (lines s) = s := by
  induction s with
  | nil => rfl
  | cons c s ih =>
      unfold lines
      split
      · next h =>
          subst h
          cases hs : lines s with
          | nil => exact absurd hs (lines_ne_nil s)
          | cons line rest => rw [joinLines_nil_cons, ← hs, ih]
      · rw [joinLines_consFirst, ih]

/-- The lines of a text, each with the line feed that ends it. -/
def endedLines : Text → List Text
  | [] => []
  | c :: s => if c = '\n' then ['\n'] :: endedLines s else consFirst c (endedLines s)

theorem flatten_consFirst (c : Char) (ls : List Text) :
    (consFirst c ls).flatten = c :: ls.flatten := by
  cases ls <;> rfl

@[simp] theorem flatten_endedLines (s : Text) : (endedLines s).flatten = s := by
  induction s with
  | nil => rfl
  | cons c s ih =>
      unfold endedLines
      split
      · next h => subst h; simp [ih]
      · rw [flatten_consFirst, ih]

def after? : Text → Text → Option Text
  | [], s => some s
  | _ :: _, [] => none
  | b :: bs, c :: s => if b = c then after? bs s else none

theorem after?_eq_some_iff {b s r : Text} : after? b s = some r ↔ s = b ++ r := by
  induction b generalizing s with
  | nil => simp [after?, eq_comm]
  | cons c b ih =>
      cases s with
      | nil => simp [after?]
      | cons d s =>
          by_cases h : c = d
          · subst h; simp [after?, ih]
          · simp [after?, h, Ne.symm h]

def holds (part : Text) : Text → Bool
  | [] => part.isEmpty
  | c :: s => (after? part (c :: s)).isSome || holds part s

def ofNat (n : Nat) : Text := (Nat.repr n).toList

end Text

end Tidymark
