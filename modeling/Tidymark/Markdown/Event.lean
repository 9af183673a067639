import Tidymark.Markdown.Block

/-!
# Events

The blocks in a list are told one event at a time: an element starts, it
stops, or something stands there that holds nothing.  What starts inside an
element also stops inside it.
-/

namespace Tidymark

namespace Markdown

inductive Tag where
  | paragraph
  | heading
  | code
  | list (ordered : Bool)
  | item
  | emphasis
  | strong
  | strikethrough
  | link
  | image
  /-- A quote, an HTML block, or a table or a part of one. -/
  | other
  deriving DecidableEq, Repr

def Tag.isInline : Tag → Bool
  | .emphasis | .strong | .strikethrough | .link | .image => true
  | _ => false

/-- What stands in a source without a start and a stop of its own. -/
inductive Bare where
  | text
  | code
  | html
  | softBreak
  | hardBreak
  | taskMark
  | thematicBreak
  deriving DecidableEq, Repr

inductive Event where
  | start (tag : Tag) (span : Span)
  | stop
  | bare (what : Bare) (span : Span)
  deriving DecidableEq, Repr

namespace Event

/-- Where an event stands; an element stops where it started. -/
def span? : Event → Option Span
  | .start _ span => some span
  | .stop => none
  | .bare _ span => some span

/-- The number of events in front of the one that stops an open element, `depth` more having been
started in it.  The last event stops an element that nothing else stops. -/
def countInside : Nat → List Event → Nat
  | _, [] => 0
  | _, [_] => 0
  | 0, .stop :: _ => 0
  | depth + 1, .stop :: rest => countInside depth rest + 1
  | depth, .start _ _ :: rest => countInside (depth + 1) rest + 1
  | depth, .bare _ _ :: rest => countInside depth rest + 1

end Event

mutual

/-- The events of a block.  The inline text of a paragraph is one event, which stands alone in an
item of a tight list. -/
def Block.events (tight : Bool) : Block → List Event
  | .heading span _ inline => [.start .heading span, .bare .text inline, .stop]
  | .paragraph span inline =>
      if tight then [.bare .text inline]
      else [.start .paragraph span, .bare .text inline, .stop]
  | .code span _ _ => [.start .code span, .bare .text span, .stop]
  | .list ⟨span, ordered, tight, items⟩ =>
      .start (.list ordered) span :: (BlockItem.eventsAll span.stop tight items ++ [.stop])
  | .thematicBreak span => [.bare .thematicBreak span]
  | .taskMark span => [.bare .taskMark span]
  | .other span => [.start .other span, .stop]

/-- The events of items, of which is known where they start and where their list stops. -/
def BlockItem.eventsAll (stop : Nat) (tight : Bool) : List BlockItem → List Event
  | [] => []
  | ⟨start, children⟩ :: rest =>
      .start .item ⟨start, stop⟩ ::
        (Block.eventsAll tight children ++ .stop :: BlockItem.eventsAll stop tight rest)

def Block.eventsAll (tight : Bool) : List Block → List Event
  | [] => []
  | b :: rest => b.events tight ++ Block.eventsAll tight rest

end

def BlockList.events (l : BlockList) : List Event :=
  BlockItem.eventsAll l.span.stop l.tight l.items

end Markdown

end Tidymark
