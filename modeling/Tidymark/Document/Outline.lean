import Tidymark.Document
import Tidymark.Text.Quoted

/-!
# Outlines

An outline of a document for the eye: one line for each node, indented by
two spaces for each level of nesting.
-/

namespace Tidymark

namespace Outline

def pad (depth : Nat) : Text := List.replicate (2 * depth) ' '

def ofBool (b : Bool) : Text := if b then "true".toList else "false".toList

def itemLine (depth : Nat) (marker text : Text) : Text :=
  pad depth ++ "ListItem(".toList ++ marker ++ ' ' :: Text.quoted text ++ [')']

mutual

/-- The lines of a node.  An item outside a list shows nothing of its children. -/
def ofNode (depth : Nat) : Node → List Text
  | .document children => (pad depth ++ "Document".toList) :: ofNodes (depth + 1) children
  | .heading h =>
      [pad depth ++ "Heading(level=".toList ++ Text.ofNat h.level ++ ", text=".toList ++
        Text.quoted h.text ++ [')']]
  | .paragraph text => [pad depth ++ "Paragraph(text=".toList ++ Text.quoted text ++ [')']]
  | .list ⟨ordered, _, items⟩ =>
      (pad depth ++ "List(ordered=".toList ++ ofBool ordered ++ ", items=".toList ++
        Text.ofNat items.length ++ [')']) :: ofItems (depth + 1) items
  | .item ⟨marker, text, _⟩ => [itemLine depth marker text]
  | .code b =>
      [pad depth ++ "CodeBlock(lang=".toList ++ Text.quoted b.language ++ ", fenced=".toList ++
        ofBool b.fenced ++ [')']]
  | .text content => [pad depth ++ "Text(content=".toList ++ Text.quoted content ++ [')']]

def ofNodes (depth : Nat) : List Node → List Text
  | [] => []
  | n :: rest => ofNode depth n ++ ofNodes depth rest

def ofItems (depth : Nat) : List Item → List Text
  | [] => []
  | ⟨marker, text, children⟩ :: rest =>
      itemLine depth marker text :: ofNodes (depth + 1) children ++ ofItems depth rest

end

end Outline

def Document.outline (d : Document) : Text :=
  Text.joinLines ("Document".toList :: Outline.ofNodes 1 d)

end Tidymark
