import Tidymark.Inline.Link
import Tidymark.Text.Blank

/-!
# Broken links

A link is broken if its label spans a line break.  It is repaired by making
each run of blanks around a line break in the label one space, again and
again until no broken link is left.
-/

namespace Tidymark

namespace BrokenLink

def read? : Text → Option (Link × Text)
  | '[' :: s =>
      match Link.readAfterBracket? false s with
      | some (link, rest) => if link.label.contains '\n' then some (link, rest) else none
      | none => none
  | _ => none

theorem source_of_read? {s rest : Text} {l : Link} (h : read? s = some (l, rest)) :
    s = l.source ++ rest := by
  unfold read? at h
  split at h
  · split at h
    · next hs =>
        split at h
        · cases h
          simpa using Link.source_of_readAfterBracket? hs
        · cases h
    · cases h
  · cases h

def pattern : Pattern Link where
  read := read?
  source := Link.source
  append_of_read := source_of_read?
  source_ne_nil _ := by simp [Link.source]

/-- The text with each blank run that holds a line feed made one space. -/
def unbreak (s : Text) : Text :=
  match s with
  | [] => []
  | c :: r =>
      if isBlank c then
        let run := c :: r.takeWhile isBlank
        (if run.contains '\n' then [' '] else run) ++ unbreak (r.dropWhile isBlank)
      else c :: unbreak r
termination_by s.length
decreasing_by
  · have := (List.dropWhile_sublist isBlank (l := r)).length_le
    simp only [List.length_cons]
    omega
  · simp

def mend (link : Link) : Link := { link with label := unbreak link.label }

def mendAll (s : Text) : Text := pattern.replace (fun link => (mend link).source) s

def repairRounds : Nat → Text → Text
  | 0, s => s
  | n + 1, s => if pattern.occursIn s then repairRounds n (mendAll s) else s

/-- The text without broken links.  Each round takes away a line feed at least, so there are
enough rounds. -/
def repair (s : Text) : Text := repairRounds (s.count '\n') s

end BrokenLink

end Tidymark
