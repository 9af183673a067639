import Tidymark.Text.Blank

/-!
# Runs of blank lines

A cap on runs of blank lines keeps the first lines of each run and drops the
rest.  A negative cap keeps all.
-/

namespace Tidymark

namespace BlankLines

/-- The lines kept under a cap, `run` blank lines of the present run having been seen. -/
def keep (cap : Nat) (run : Nat) : List Text → List Text
  | [] => []
  | line :: rest =>
      if Text.isAllBlank line then
        if run < cap then line :: keep cap (run + 1) rest else keep cap (run + 1) rest
      else line :: keep cap 0 rest

def capAt (cap : Nat) (s : Text) : Text := Text.joinLines (keep cap 0 (Text.lines s))

/-- The text with runs of blank lines capped, if the cap is not negative. -/
def normalize (cap : Int) (s : Text) : Text :=
  match cap with
  | .ofNat cap => capAt cap s
  | .negSucc _ => s

end BlankLines

end Tidymark
