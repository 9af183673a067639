import Tidymark.Failure
import Tidymark.Reflow

/-!
# List markers

Every list gets the configured marker, at every depth: items of an ordered
list are numbered from one, items of an unordered list share a bullet.  Items
may hold nested lists only.
-/

namespace Tidymark

namespace ListConfig

def listMarker (c : ListConfig) (ordered : Bool) : Text :=
  if ordered then c.numberStyle.token else c.bulletStyle.token

def itemMarker (c : ListConfig) (ordered : Bool) (n : Nat) : Text :=
  if ordered then Text.ofNat n ++ c.numberStyle.token else c.bulletStyle.token

end ListConfig

mutual

/-- A list with its markers and the texts of its items in order, at every depth. -/
def ItemList.tidy (c : ListConfig) : ItemList → Except Failure ItemList
  | ⟨ordered, _, items⟩ => do
      let items ← Item.tidyAll c ordered 1 items
      return ⟨ordered, c.listMarker ordered, items⟩

/-- Consecutive items of a list, the first of which is the `n`-th. -/
def Item.tidyAll (c : ListConfig) (ordered : Bool) (n : Nat) :
    List Item → Except Failure (List Item)
  | [] => return []
  | ⟨_, text, children⟩ :: rest => do
      let children ← Node.tidyChildren c children
      let rest ← Item.tidyAll c ordered (n + 1) rest
      return ⟨c.itemMarker ordered n, Text.collapseBlanks (Text.trim text), children⟩ :: rest

/-- The children of an item, all of which must be lists. -/
def Node.tidyChildren (c : ListConfig) : List Node → Except Failure (List Node)
  | [] => return []
  | .list l :: rest => do
      let l ← l.tidy c
      let rest ← Node.tidyChildren c rest
      return .list l :: rest
  | n :: _ => throw (.rejected "list" n.kind "list items may only contain nested lists")

end

/-- An item outside a list keeps its marker. -/
def Item.tidy (c : ListConfig) : Item → Except Failure Item
  | ⟨marker, text, children⟩ => do
      let children ← Node.tidyChildren c children
      return ⟨marker, Text.collapseBlanks (Text.trim text), children⟩

mutual

theorem ItemList.height_tidy (c : ListConfig) {l m : ItemList} (h : l.tidy c = .ok m) :
    m.height = l.height := by
  match l with
  | ⟨ordered, marker, items⟩ =>
      simp only [ItemList.tidy, bind, Except.bind] at h
      split at h
      · cases h
      · next items' hi =>
          cases h
          simp only [ItemList.height, Item.heightAll_tidyAll c hi]

theorem Item.heightAll_tidyAll (c : ListConfig) {ordered : Bool} {n : Nat} {is js : List Item}
    (h : Item.tidyAll c ordered n is = .ok js) : Item.heightAll js = Item.heightAll is := by
  match is with
  | [] => cases h; rfl
  | ⟨marker, text, children⟩ :: rest =>
      simp only [Item.tidyAll, bind, Except.bind] at h
      split at h
      · cases h
      · next children' hc =>
          split at h
          · cases h
          · next rest' hr =>
              cases h
              simp only [Item.heightAll, Item.height, Node.heightAll_tidyChildren c hc,
                Item.heightAll_tidyAll c hr]

theorem Node.heightAll_tidyChildren (c : ListConfig) {ns ms : List Node}
    (h : Node.tidyChildren c ns = .ok ms) : Node.heightAll ms = Node.heightAll ns := by
  match ns with
  | [] => cases h; rfl
  | .list l :: rest =>
      simp only [Node.tidyChildren, bind, Except.bind] at h
      split at h
      · cases h
      · next l' hl =>
          split at h
          · cases h
          · next rest' hr =>
              cases h
              simp only [Node.heightAll, Node.height, ItemList.height_tidy c hl,
                Node.heightAll_tidyChildren c hr]
  | .document _ :: _ | .heading _ :: _ | .paragraph _ :: _ | .item _ :: _ | .code _ :: _
  | .text _ :: _ => cases h

end

theorem Item.height_tidy (c : ListConfig) {i j : Item} (h : i.tidy c = .ok j) :
    j.height = i.height := by
  match i with
  | ⟨marker, text, children⟩ =>
      simp only [Item.tidy, bind, Except.bind] at h
      split at h
      · cases h
      · next children' hc =>
          cases h
          simp only [Item.height, Node.heightAll_tidyChildren c hc]

end Tidymark
