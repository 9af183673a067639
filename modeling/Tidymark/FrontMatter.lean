import Tidymark.Text.Blank

/-!
# Front matter

Front matter is a leading block between two lines of three dashes.  The first
of these lines must be exact; the other may have trailing blanks.
-/

namespace Tidymark

namespace FrontMatter

def fence : Text := ['-', '-', '-']

/-- The text behind an opening fence line, together with that line. -/
def opening? (s : Text) : Option (Text × Text) :=
  match Text.after? (fence ++ ['\n']) s with
  | some rest => some (fence ++ ['\n'], rest)
  | none => (Text.after? (fence ++ ['\r', '\n']) s).map fun rest => (fence ++ ['\r', '\n'], rest)

def closing? (block : Text) : List Text → Option (Text × Text)
  | [] => none
  | line :: rest =>
      if Text.trimEnd line = fence then some (block ++ line, rest.flatten)
      else closing? (block ++ line) rest

/-- The front matter of a text, if it has any, without trailing blanks, and the rest. -/
def split (s : Text) : Option Text × Text :=
  match opening? s with
  | none => (none, s)
  | some (first, rest) =>
      match closing? first (Text.endedLines rest) with
      | some (block, body) => (some (Text.trimEnd block), body)
      | none => (none, s)

def attach (front : Option Text) (body : Text) : Text :=
  match front with
  | none => body
  | some front =>
      if Text.isAllBlank body then front ++ body else front ++ ['\n', '\n'] ++ body

end FrontMatter

end Tidymark
