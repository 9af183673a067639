import Tidymark.Failure
import Tidymark.Reflow
import Tidymark.Render.BlankLines
import Tidymark.Render.BrokenLink

/-!
# Rendering

A document is written node by node, each block followed by a blank line.
Runs of blank lines are then capped and the end of the text is settled.
-/

namespace Tidymark

namespace Render

/-- Whether a closing run of hashes has to be added behind a heading text: its last word would
be read as one. -/
def needsClosing (text : Text) : Bool :=
  match (Text.words text).getLast? with
  | some word => word.all (· == '#')
  | none => false

def atxHeading (level : Nat) (text : Text) : Text :=
  List.replicate level '#' ++
    (if text.isEmpty then []
    else ' ' :: text ++ (if needsClosing text then [' ', '#'] else [])) ++ ['\n', '\n']

/-- A heading marked by an underline, at least three characters long. -/
def setextHeading (level : Nat) (text : Text) : Text :=
  text ++ '\n' :: List.replicate (max text.length 3) (if level = 1 then '=' else '-') ++
    ['\n', '\n']

/-- A heading.  Only a text can be underlined, and only on the first two levels. -/
def heading (h : Heading) : Except Failure Text :=
  if 1 ≤ h.level ∧ h.level ≤ 6 then
    let text := Text.trim h.text
    if h.style = .setext ∧ h.level ≤ 2 ∧ text ≠ [] then .ok (setextHeading h.level text)
    else .ok (atxHeading h.level text)
  else .error (.render (.headingLevel h.level))

/-- The text of a paragraph.  A link anywhere in it keeps its lines as they are. -/
def paragraphText (lineWidth : Nat) (s : Text) : Text :=
  let repaired := BrokenLink.repair s
  if Link.pattern.occursIn repaired then repaired else reflow lineWidth repaired

def paragraph (c : Config) (s : Text) : Text := paragraphText c.lineWidth s ++ ['\n', '\n']

/-- The lines of an item: the first behind its marker, the others at the content column. -/
def itemLines (indent : Nat) (marker text : Text) : Text :=
  let column := indent + marker.length + 1
  let first := fun (line : Text) =>
    List.replicate indent ' ' ++ marker ++ (if line.isEmpty then [] else ' ' :: line) ++ ['\n']
  let other := fun (line : Text) =>
    (if line.isEmpty then [] else List.replicate column ' ' ++ line) ++ ['\n']
  match Text.lines text with
  | [] => first []
  | line :: rest => first line ++ rest.flatMap other

/-- The marker written for an item: the configured bullet if it has none. -/
def shownMarker (c : ListConfig) (marker : Text) : Text :=
  if marker.isEmpty then c.bulletStyle.token else marker

def nestedIndent (c : ListConfig) (indent : Nat) (marker : Text) : Nat :=
  if c.consistentIndentation then indent + marker.length + 1 else indent + 2

mutual

def items (c : ListConfig) (indent : Nat) : List Item → Except Failure Text
  | [] => return []
  | i :: rest => do
      let first ← item c indent i
      let rest ← items c indent rest
      return first ++ rest

def item (c : ListConfig) (indent : Nat) : Item → Except Failure Text
  | ⟨marker, text, children⟩ => do
      let marker := shownMarker c marker
      let below ← itemChildren c (nestedIndent c indent marker) children
      return itemLines indent marker text ++ below

def itemChildren (c : ListConfig) (indent : Nat) : List Node → Except Failure Text
  | [] => return []
  | .list ⟨_, _, is⟩ :: rest => do
      let first ← items c indent is
      let rest ← itemChildren c indent rest
      return first ++ rest
  | n :: _ => throw (.render (.itemChild n.kind))

end

/-- The longest run of `fence` that opens a line of the content, behind blanks. -/
def longestRun (fence : Char) (content : Text) : Nat :=
  (Text.lines content).foldl (fun n line => max n (Text.runLength fence (Text.trimStart line))) 0

def fenceFor (style : FenceStyle) (content : Text) : Text :=
  List.replicate (max 3 (longestRun style.char content + 1)) style.char

def ended (content : Text) : Text :=
  if content.isEmpty || content.getLast? == some '\n' then content else content ++ ['\n']

def fencedCode (b : CodeBlock) : Text :=
  let fence := fenceFor b.fence b.content
  fence ++ b.language ++ '\n' :: ended b.content ++ fence ++ ['\n', '\n']

def dropFinalBreak (s : Text) : Text :=
  if s.getLast? = some '\n' then s.dropLast else s

def indentedCode (content : Text) : Text :=
  (Text.lines (dropFinalBreak content)).flatMap (fun line =>
    (if Text.isAllBlank line then [] else [' ', ' ', ' ', ' '] ++ line) ++ ['\n']) ++ ['\n']

def code (b : CodeBlock) : Text := if b.fenced then fencedCode b else indentedCode b.content

def opaqueText (c : WhitespaceConfig) (s : Text) : Text :=
  (if c.trimTrailingSpaces then Text.trimLineEnds s else s) ++ ['\n', '\n']

def node (c : Config) : Node → Except Failure Text
  | .document _ => .error (.render .nestedDocument)
  | .heading h => heading h
  | .paragraph s => .ok (paragraph c s)
  | .list l => (· ++ ['\n']) <$> items c.list 0 l.items
  | .item i => (· ++ ['\n']) <$> item c.list 0 i
  | .code b => .ok (code b)
  | .text s => .ok (opaqueText c.whitespace s)

def body (c : Config) : Document → Except Failure Text
  | [] => return []
  | n :: rest => do
      let first ← node c n
      let rest ← body c rest
      return first ++ rest

/-- The whole text with blank lines capped and its end settled. -/
def finish (c : WhitespaceConfig) (s : Text) : Text :=
  let kept := Text.dropEndWhile (· == '\n') (BlankLines.normalize c.maxBlankLines s)
  if c.ensureFinalNewline then kept ++ ['\n'] else kept

end Render

def Document.render (c : Config) (d : Document) : Except Failure Text :=
  Render.finish c.whitespace <$> Render.body c d

end Tidymark
