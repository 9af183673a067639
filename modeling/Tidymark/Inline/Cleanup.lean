import Tidymark.Inline.CodeSpan
import Tidymark.Inline.Link
import Tidymark.Text.Word

/-!
# Inline cleanup

A text is cut into fenced regions, which stay as they are, and prose.  In
prose, code spans padded on both sides are trimmed.  Elsewhere blanks inside
the ends of link labels go away, and emphasis between underscores is written
with asterisks, except in destinations, angle brackets and bare addresses.
-/

namespace Tidymark

structure FenceRun where
  char : Char
  length : Nat
  deriving DecidableEq, Repr

namespace FenceRun

/-- The fence that a line starts with, behind at most three spaces. -/
def ofLine? (line : Text) : Option FenceRun :=
  let body := line.drop (Text.runLength ' ' line)
  match body with
  | [] => none
  | c :: _ =>
      let n := Text.runLength c body
      if Text.runLength ' ' line ≤ 3 && (c == backtick || c == '~') && 3 ≤ n then some ⟨c, n⟩
      else none

/-- Whether a line consists of fence characters of one kind between blanks. -/
def isBare (line : Text) : Bool :=
  let body := Text.trim line
  body.all (· == backtick) || body.all (· == '~')

def closedBy (fence : FenceRun) (line : Text) : Bool :=
  match ofLine? line with
  | some other => other.char == fence.char && fence.length ≤ other.length && isBare line
  | none => false

end FenceRun

/-- A stretch of lines outside code fences, or one from an opening fence to its end. -/
inductive Region where
  | prose (s : Text)
  | fenced (s : Text)
  deriving DecidableEq, Repr

namespace Region

def text : Region → Text
  | .prose s => s
  | .fenced s => s

/-- The regions of lines, of which those in `held` belong to the region being read, which
`fence` opened if there is one. -/
def ofLinesFrom (fence : Option FenceRun) (held : Text) : List Text → List Region
  | [] =>
      match fence with
      | none => [.prose held]
      | some _ => [.fenced held]
  | line :: rest =>
      match fence with
      | none =>
          match FenceRun.ofLine? line with
          | some opened => .prose held :: ofLinesFrom (some opened) line rest
          | none => ofLinesFrom none (held ++ line) rest
      | some opened =>
          if opened.closedBy line then .fenced (held ++ line) :: ofLinesFrom none [] rest
          else ofLinesFrom (some opened) (held ++ line) rest

def ofText (s : Text) : List Region := ofLinesFrom none [] (Text.endedLines s)

theorem text_ofLinesFrom (fence : Option FenceRun) (held : Text) (ls : List Text) :
    (ofLinesFrom fence held ls).flatMap text = held ++ ls.flatten := by
  induction ls generalizing fence held with
  | nil => cases fence <;> simp [ofLinesFrom, text]
  | cons line rest ih =>
      unfold ofLinesFrom
      cases fence with
      | none =>
          simp only
          split <;> simp [ih, text]
      | some opened =>
          simp only
          split <;> simp [ih, text]

theorem text_ofText (s : Text) : (ofText s).flatMap text = s := by
  simp [ofText, text_ofLinesFrom]

end Region

namespace CodeSpan

/-- A code span with blanks on both sides of its content loses them, unless the content is
blank or starts or ends with a backtick. -/
def trim (span : CodeSpan) : CodeSpan :=
  let body := Text.trim span.content
  let padded := (span.content.head?.any isBlank) && (span.content.getLast?.any isBlank)
  if !padded || body.isEmpty || body.head? == some backtick || body.getLast? == some backtick then
    span
  else ⟨span.run, body⟩

end CodeSpan

/-- A link label with blanks inside both its ends, before what makes it a link. -/
structure PaddedLabel where
  label : Text
  opener : Char

namespace PaddedLabel

def trimmed (l : PaddedLabel) : Text := '[' :: Text.trim l.label ++ [']', l.opener]

def read? : Text → Option (PaddedLabel × Text)
  | '[' :: s =>
      match Text.splitAt? ']' s with
      | some (label, c :: rest) =>
          if (c == '(' || c == '[') && label.head?.any isBlank && label.getLast?.any isBlank &&
              !Text.isAllBlank label then
            some (⟨label, c⟩, rest)
          else none
      | _ => none
  | _ => none

theorem append_of_read? {s rest : Text} {l : PaddedLabel} (h : read? s = some (l, rest)) :
    s = '[' :: l.label ++ [']', l.opener] ++ rest := by
  unfold read? at h
  split at h
  · split at h
    · next hs =>
        split at h
        · cases h
          rw [(Text.splitAt?_eq_some_iff.mp hs).1]
          simp
        · cases h
    · cases h
  · cases h

/-- The pattern of padded labels.  It takes in the character behind the label, so a label that
this one opens keeps its blanks. -/
def pattern : Pattern PaddedLabel where
  read := read?
  source l := '[' :: l.label ++ [']', l.opener]
  append_of_read := append_of_read?
  source_ne_nil _ := by simp

def trimAll (s : Text) : Text := pattern.replace trimmed s

end PaddedLabel

namespace Emphasis

/-- The text with emphasis between underscores written with asterisks.  `inWord` tells whether
a word character precedes it. -/
def starAll (inWord : Bool) : Text → Text
  | [] => []
  | c :: s =>
      if c = '_' && !inWord then
        match _h : Text.splitAt? '_' s with
        | some (body, rest) =>
            if !body.isEmpty && endsWord rest then '*' :: body ++ '*' :: starAll true rest
            else c :: starAll true s
        | none => c :: starAll true s
      else c :: starAll (isWord c) s
termination_by s => s.length
decreasing_by
  · rw [(Text.splitAt?_eq_some_iff.mp _h).1]
    simp only [List.length_append, List.length_cons]
    omega
  · simp
  · simp
  · simp

end Emphasis

namespace Guarded

/-- The rest of a bare address: a run without blanks that holds `://` behind at least one
character and before at least one more. -/
def address? (s : Text) : Option (Text × Text) :=
  let run := s.takeWhile (!isBlank ·)
  if (List.range run.length).any fun i =>
      1 ≤ i && i + 3 < run.length && [':', '/', '/'].isPrefixOf (run.drop i) then
    some (run, s.dropWhile (!isBlank ·))
  else none

/-- A destination with the bracket before it, an angle-bracket stretch, or a bare address. -/
def cut? (s : Text) : Option (Text × Text) :=
  let other := address? s
  match s with
  | ']' :: '(' :: r =>
      match Text.splitAt? ')' r with
      | some (a, b) => some (']' :: '(' :: a ++ [')'], b)
      | none => other
  | '<' :: r =>
      match r.takeWhile (fun c => c != '<' && c != '>'),
          r.dropWhile (fun c => c != '<' && c != '>') with
      | c :: a, '>' :: b => some ('<' :: c :: a ++ ['>'], b)
      | _, _ => other
  | _ => other

theorem address?_append {s a b : Text} (h : address? s = some (a, b)) : s = a ++ b ∧ a ≠ [] := by
  unfold address? at h
  simp only at h
  split at h
  · next hi =>
      cases h
      refine ⟨(List.takeWhile_append_dropWhile).symm, fun hnil => ?_⟩
      rw [hnil] at hi
      simp at hi
  · cases h

theorem cut?_append {s a b : Text} (h : cut? s = some (a, b)) : s = a ++ b ∧ a ≠ [] := by
  unfold cut? at h
  simp only at h
  split at h
  · split at h
    · next hs =>
        cases h
        rw [(Text.splitAt?_eq_some_iff.mp hs).1]
        simp
    · exact address?_append h
  · next r =>
      split at h
      · next c a' b' ha hb =>
          cases h
          have := List.takeWhile_append_dropWhile (p := fun c => c != '<' && c != '>') (l := r)
          rw [ha, hb] at this
          rw [← this]
          simp
      · exact address?_append h
  · exact address?_append h

def pattern : Pattern Text where
  read := cut?
  source := id
  append_of_read h := (cut?_append h).1
  source_ne_nil h := (cut?_append h).2

end Guarded

namespace Cleanup

/-- Prose without code: labels are trimmed, then underscores give way between guarded
stretches. -/
def plain (s : Text) : Text :=
  Piece.mapText (Emphasis.starAll false) id (Guarded.pattern.pieces (PaddedLabel.trimAll s))

/-- Prose: code spans are trimmed, the rest is cleaned up as plain prose. -/
def prose (s : Text) : Text :=
  Piece.mapText plain (fun span => span.trim.source) (CodeSpan.pieces s)

def region : Region → Text
  | .prose s => prose s
  | .fenced s => s

end Cleanup

def cleanup (s : Text) : Text := (Region.ofText s).flatMap Cleanup.region

end Tidymark
