import Tidymark.Document
import Tidymark.Inline.CodeSpan
import Tidymark.Markdown.Event
import Tidymark.Markdown.Read

/-!
# Documents from sources

Headings, paragraphs, code blocks and plain lists become nodes; inline text
is taken over as it is written.  A list is plain if each of its items holds
at most one stretch of inline text and then nested plain lists; thematic
breaks count as inline text there.  Every other block becomes opaque text, and
link reference definitions outside opaque text follow at the end.
-/

namespace Tidymark

open Markdown

namespace Text

/-- The stretch of a text that a span marks, counted in characters. -/
def slice (s : Text) (span : Span) : Text := (s.drop span.start).take (span.stop - span.start)

def inlineSlice (s : Text) (span : Span) : Text :=
  joinLines ((lines (slice s span)).map trimStart)

def spaceRuns (afterBlank : Bool) : Text → Text
  | [] => []
  | c :: s =>
      if isBlank c then if afterBlank then spaceRuns true s else ' ' :: spaceRuns true s
      else c :: spaceRuns false s

def unfoldLines (s : Text) : Text := s.map fun c => if c = '\n' then ' ' else c

/-- The text of a heading: blank runs outside code spans are collapsed, and inside only line
feeds become spaces. -/
def headingText (s : Text) : Text :=
  trim (Piece.mapText (spaceRuns false) (fun span => unfoldLines span.source)
    (CodeSpan.pieces s))

end Text

def itemMarker (s : Text) : Text :=
  let s := Text.trimStart s
  let digits := s.takeWhile Char.isDigit
  match s.drop digits.length with
  | c :: _ =>
      if !digits.isEmpty && (c == '.' || c == ')') then digits ++ [c]
      else if digits.isEmpty && (c == '-' || c == '*' || c == '+') then [c]
      else []
  | [] => []

/-- Put a list in front of nodes; a list of the same kind directly behind it joins it. -/
def Node.consList (l : ItemList) : List Node → List Node
  | .list next :: rest =>
      if l.ordered = next.ordered then .list { l with items := l.items ++ next.items } :: rest
      else .list l :: .list next :: rest
  | rest => .list l :: rest

namespace Reading

def cover : List Span → Option Span
  | [] => none
  | a :: rest =>
      match cover rest with
      | none => some a
      | some b => some ⟨min a.start b.start, max a.stop b.stop⟩

def inlineText (source : Text) (events : List Event) : Text :=
  match cover (events.filterMap Event.span?) with
  | some span => Text.inlineSlice source span
  | none => []

structure Draft where
  /-- Where the bare inline text stands that may still go on. -/
  run : Option Span := none
  /-- The text of the item, once it is settled. -/
  text : Option Text := none
  nested : List ItemList := []

namespace Draft

/-- Settle the text of an item: its bare inline text ends here, if it has any. -/
def settle (source : Text) (d : Draft) : Draft :=
  match d.run with
  | some span => { d with run := none, text := some (Text.inlineSlice source span) }
  | none => d

/-- Add bare inline text.  It goes on with that in front, and none may follow a paragraph or a
nested list. -/
def addRun (d : Draft) (span : Span) : Option Draft :=
  if d.text.isSome || !d.nested.isEmpty then none
  else some { d with run := cover (d.run.toList ++ [span]) }

/-- Add a paragraph, which nothing may precede. -/
def addParagraph (d : Draft) (text : Text) : Option Draft :=
  if d.text.isSome || d.run.isSome || !d.nested.isEmpty then none
  else some { d with text := some text }

def addList (source : Text) (d : Draft) (l : ItemList) : Draft :=
  let d := d.settle source
  { d with nested := d.nested ++ [l] }

def item (source : Text) (span : Span) (d : Draft) : Item :=
  ⟨itemMarker (Text.slice source span), (d.settle source).text.getD [],
    d.nested.foldr Node.consList []⟩

end Draft

def listOf (ordered : Bool) (items : List Item) : ItemList :=
  let marker := match items with
    | [] => if ordered then ['.'] else ['-']
    | ⟨marker, _, _⟩ :: _ => if ordered then marker.dropWhile Char.isDigit else marker
  ⟨ordered, marker, items⟩

mutual

def items? (source : Text) : List Event → Option (List Item)
  | [] => some []
  | .start .item span :: rest => do
      let n := Event.countInside 0 rest
      let draft ← draft? source {} (rest.take n)
      let items ← items? source (rest.drop (n + 1))
      return draft.item source span :: items
  | _ :: _ => none
termination_by events => events.length
decreasing_by
  all_goals simp only [List.length_take, List.length_drop, List.length_cons]; omega

/-- What the events in an item add to what has been read of it. -/
def draft? (source : Text) (d : Draft) : List Event → Option Draft
  | [] => some d
  | .start (.list ordered) _ :: rest => do
      let n := Event.countInside 0 rest
      let items ← items? source (rest.take n)
      draft? source (d.addList source (listOf ordered items)) (rest.drop (n + 1))
  | .start .paragraph _ :: rest => do
      let n := Event.countInside 0 rest
      let d ← d.addParagraph (inlineText source (rest.take n))
      draft? source d (rest.drop (n + 1))
  | .start tag span :: rest =>
      if tag.isInline then do
        let d ← d.addRun span
        draft? source d (rest.drop (Event.countInside 0 rest + 1))
      else none
  | .bare _ span :: rest => do
      let d ← d.addRun span
      draft? source d rest
  | .stop :: _ => none
termination_by events => events.length
decreasing_by
  all_goals simp only [List.length_take, List.length_drop, List.length_cons]; omega

end

/-- The list that the events between its start and its stop tell, if it is plain. -/
def list? (source : Text) (ordered : Bool) (events : List Event) : Option ItemList :=
  (items? source events).map (listOf ordered)

def opaqueNode (source : Text) (span : Span) : Node := .text (Text.trimEnd (Text.slice source span))

def fenceOf (source : Text) (span : Span) : FenceStyle :=
  if ['~'].isPrefixOf (Text.trimStart (Text.slice source span)) then .tildes else .backticks

def headingStyleOf (source : Text) (span : Span) : HeadingStyle :=
  if ['#'].isPrefixOf (Text.trimStart (Text.slice source span)) then .atx else .setext

def consBlock (source : Text) (b : Block) (rest : List Node) : List Node :=
  match b with
  | .heading span level inline =>
      .heading ⟨level, Text.headingText (Text.inlineSlice source inline),
        headingStyleOf source span⟩ :: rest
  | .paragraph _ inline => .paragraph (Text.inlineSlice source inline) :: rest
  | .code span info content =>
      (match info with
        | some info => .code ⟨Text.trim info, content, true, fenceOf source span⟩
        | none => .code ⟨[], content, false, .backticks⟩) :: rest
  | .list l =>
      match list? source l.ordered l.events with
      | some plain => Node.consList plain rest
      | none => opaqueNode source l.span :: rest
  | .thematicBreak span => opaqueNode source span :: rest
  | .taskMark span => opaqueNode source span :: rest
  | .other span => opaqueNode source span :: rest

/-- Where the opaque text that a block becomes stands, if it becomes opaque text. -/
def opaqueSpan? (source : Text) : Block → Option Span
  | .list l => if (list? source l.ordered l.events).isSome then none else some l.span
  | .thematicBreak span => some span
  | .taskMark span => some span
  | .other span => some span
  | _ => none

/-- The definitions outside opaque text, one on a line. -/
def definitionNodes (source : Text) (blocks : List Block) (definitions : List Definition) :
    List Node :=
  let kept := blocks.filterMap (opaqueSpan? source)
  let outside := definitions.filter fun d =>
    !kept.any fun k => k.start ≤ d.span.start && d.span.stop ≤ k.stop
  match outside with
  | [] => []
  | _ => [.text (Text.joinLines (outside.map fun d => Text.trim (Text.slice source d.span)))]

end Reading

def Document.read (source : Text) : Document :=
  let s := Source.read source
  s.blocks.foldr (Reading.consBlock source) (Reading.definitionNodes source s.blocks s.definitions)

end Tidymark
