import Tidymark.Config

/-!
# Documents

A document is a list of block nodes.  List items hold their inline text and
nested lists; markup that has no node of its own is kept as opaque text.
-/

namespace Tidymark

/-- A heading: its level, its text on one line, and how it is marked. -/
structure Heading where
  level : Nat
  text : Text
  style : HeadingStyle
  deriving DecidableEq, Repr

/-- A code block: its language, empty if there is none, and its content with line ends. -/
structure CodeBlock where
  language : Text
  content : Text
  /-- Whether the block stands between fences; otherwise it is indented. -/
  fenced : Bool
  fence : FenceStyle
  deriving DecidableEq, Repr

mutual

inductive Node where
  | document (children : List Node)
  | heading (heading : Heading)
  | paragraph (text : Text)
  | list (list : ItemList)
  | item (item : Item)
  | code (block : CodeBlock)
  /-- Opaque markup. -/
  | text (content : Text)

structure ItemList where
  ordered : Bool
  /-- The bullet of an unordered list or the delimiter of an ordered one. -/
  marker : Text
  items : List Item

/-- An item: its marker, its text and what is nested in it. -/
structure Item where
  /-- What stands before the text of the item. -/
  marker : Text
  text : Text
  children : List Node

end

abbrev Document := List Node

/-- What a node is, without what it holds. -/
inductive NodeKind where
  | document
  | heading
  | paragraph
  | list
  | item
  | code
  | text
  deriving DecidableEq, Repr

namespace NodeKind

def name : NodeKind → String
  | .document => "Document"
  | .heading => "Heading"
  | .paragraph => "Paragraph"
  | .list => "List"
  | .item => "ListItem"
  | .code => "CodeBlock"
  | .text => "Text"

def all : List NodeKind := [.document, .heading, .paragraph, .list, .item, .code, .text]

end NodeKind

def Node.kind : Node → NodeKind
  | .document _ => .document
  | .heading _ => .heading
  | .paragraph _ => .paragraph
  | .list _ => .list
  | .item _ => .item
  | .code _ => .code
  | .text _ => .text

mutual

/-- How deep the nodes below a node are nested. -/
def Node.height : Node → Nat
  | .document children => Node.heightAll children + 1
  | .heading _ => 0
  | .paragraph _ => 0
  | .list l => l.height
  | .item i => i.height
  | .code _ => 0
  | .text _ => 0

def ItemList.height : ItemList → Nat
  | ⟨_, _, items⟩ => Item.heightAll items + 1

def Item.height : Item → Nat
  | ⟨_, _, children⟩ => Node.heightAll children + 1

def Node.heightAll : List Node → Nat
  | [] => 0
  | n :: rest => max n.height (Node.heightAll rest)

def Item.heightAll : List Item → Nat
  | [] => 0
  | i :: rest => max i.height (Item.heightAll rest)

end

end Tidymark
