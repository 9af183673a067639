import Mathlib.Data.List.Forall2
import Tidymark.Proofs.Document.Normalized

/-!
# Frames

The frame of a node tells the kinds of the node and of those below it, and
drops all else.  What is checked of lists and items is told from their frames,
and normalising keeps every frame.
-/

namespace Tidymark

/-- The kind of a node and the frames of what is nested in it.  What stands in a document that is
itself a node is left out. -/
inductive Frame where
  | node (kind : NodeKind) (nested : List Frame)

/-- The kind of the node that has a frame. -/
def Frame.kind : Frame → NodeKind
  | .node kind _ => kind

def Frame.nested : Frame → List Frame
  | .node _ nested => nested

mutual

def Node.frame : Node → Frame
  | .document _ => .node .document []
  | .heading _ => .node .heading []
  | .paragraph _ => .node .paragraph []
  | .list l => l.frame
  | .item i => i.frame
  | .code _ => .node .code []
  | .text _ => .node .text []

def ItemList.frame : ItemList → Frame
  | ⟨_, _, items⟩ => .node .list (Item.frames items)

def Item.frame : Item → Frame
  | ⟨_, _, children⟩ => .node .item (Node.frames children)

def Item.frames : List Item → List Frame
  | [] => []
  | i :: rest => i.frame :: Item.frames rest

def Node.frames : List Node → List Frame
  | [] => []
  | n :: rest => n.frame :: Node.frames rest

end

theorem Node.kind_frame (n : Node) : n.frame.kind = n.kind := by
  cases n with
  | list l =>
      obtain ⟨_, _, _⟩ := l
      rfl
  | item i =>
      obtain ⟨_, _, _⟩ := i
      rfl
  | document _ | heading _ | paragraph _ | code _ | text _ => rfl

theorem Node.kind_eq_of_frame_eq {n m : Node} (h : n.frame = m.frame) : n.kind = m.kind := by
  rw [← n.kind_frame, ← m.kind_frame, h]

theorem Item.frames_eq_iff {is js : List Item} :
    Item.frames is = Item.frames js ↔ List.Forall₂ (fun i j => i.frame = j.frame) is js := by
  induction is generalizing js with
  | nil => cases js <;> simp [Item.frames]
  | cons i rest ih => cases js <;> simp [Item.frames, ih]

theorem Node.frames_eq_iff {ns ms : List Node} :
    Node.frames ns = Node.frames ms ↔ List.Forall₂ (fun n m => n.frame = m.frame) ns ms := by
  induction ns generalizing ms with
  | nil => cases ms <;> simp [Node.frames]
  | cons n rest ih => cases ms <;> simp [Node.frames, ih]

/-! ## What is checked is told from frames -/

mutual

theorem ItemList.check_eq_of_frame_eq (l k : ItemList) (h : l.frame = k.frame) :
    Placed.check l.descendants = Placed.check k.descendants := by
  match l, k with
  | ⟨_, _, is⟩, ⟨_, _, js⟩ => exact Item.check_eq_of_frames_eq is js (congrArg Frame.nested h)

theorem Item.check_eq_of_frames_eq (is js : List Item) (h : Item.frames is = Item.frames js) :
    Placed.check (Item.preorder is) = Placed.check (Item.preorder js) := by
  match is, js with
  | [], [] => rfl
  | [], _ :: _ => cases h
  | _ :: _, [] => cases h
  | ⟨_, _, ns⟩ :: is, ⟨_, _, ms⟩ :: js =>
      rw [Item.frames, Item.frames, List.cons.injEq] at h
      rw [Item.preorder, Item.preorder, Placed.check_cons rfl, Placed.check_cons rfl,
        Placed.check_append, Placed.check_append, Item.descendants, Item.descendants,
        Node.check_eq_of_frames_eq ns ms (congrArg Frame.nested h.1),
        Item.check_eq_of_frames_eq is js h.2]

theorem Node.check_eq_of_frames_eq (ns ms : List Node) (h : Node.frames ns = Node.frames ms) :
    Placed.check (Node.preorder .item ns) = Placed.check (Node.preorder .item ms) := by
  match ns, ms with
  | [], [] => rfl
  | [], _ :: _ => cases h
  | _ :: _, [] => cases h
  | n :: ns, m :: ms =>
      rw [Node.frames, Node.frames, List.cons.injEq] at h
      have hkind := Node.kind_eq_of_frame_eq h.1
      rw [Node.preorder, Node.preorder, Placed.check_item, Placed.check_item, hkind]
      match n, m with
      | .list l, .list k =>
          rw [Placed.check_append, Placed.check_append, Node.descendants, Node.descendants,
            ItemList.check_eq_of_frame_eq l k h.1, Node.check_eq_of_frames_eq ns ms h.2]
      | .list _, .document _ | .list _, .heading _ | .list _, .paragraph _ | .list _, .item _
      | .list _, .code _ | .list _, .text _ => cases hkind
      | _, .document _ | _, .heading _ | _, .paragraph _ | _, .item _ | _, .code _
      | _, .text _ => rfl
      | .document _, .list _ | .heading _, .list _ | .paragraph _, .list _ | .item _, .list _
      | .code _, .list _ | .text _, .list _ => cases hkind

end

theorem Item.check_eq_of_frame_eq (i j : Item) (h : i.frame = j.frame) :
    Placed.check i.descendants = Placed.check j.descendants := by
  obtain ⟨_, _, ns⟩ := i
  obtain ⟨_, _, ms⟩ := j
  exact Node.check_eq_of_frames_eq ns ms (congrArg Frame.nested h)

/-! ## Normalising keeps frames -/

mutual

theorem ItemList.frame_normalized (c : Config) (l : ItemList) :
    (l.normalized c).frame = l.frame := by
  match l with
  | ⟨ordered, _, items⟩ =>
      rw [ItemList.normalized, ItemList.frame, ItemList.frame,
        Item.frames_numbered c ordered 1 items]

theorem Item.frame_normalized (c : Config) (i : Item) : (i.normalized c).frame = i.frame := by
  match i with
  | ⟨_, _, children⟩ =>
      rw [Item.normalized, Item.frame, Item.frame, Node.frames_normalizedAll c children]

theorem Item.frames_numbered (c : Config) (ordered : Bool) (n : Nat) (is : List Item) :
    Item.frames (Item.numbered c ordered n is) = Item.frames is := by
  match is with
  | [] => rfl
  | ⟨_, _, children⟩ :: rest =>
      have hchildren := Node.frames_normalizedAll c children
      have hrest := Item.frames_numbered c ordered (n + 1) rest
      simp only [Item.numbered, Item.normalized, Item.frames, Item.frame, hchildren, hrest]

theorem Node.frame_normalized (c : Config) (n : Node) : (n.normalized c).frame = n.frame := by
  match n with
  | .document _ | .heading _ | .paragraph _ | .code _ | .text _ => rfl
  | .list l => exact ItemList.frame_normalized c l
  | .item i => exact Item.frame_normalized c i

theorem Node.frames_normalizedAll (c : Config) (ns : List Node) :
    Node.frames (Node.normalizedAll c ns) = Node.frames ns := by
  match ns with
  | [] => rfl
  | n :: rest =>
      rw [Node.normalizedAll, Node.frames, Node.frames, Node.frame_normalized c n,
        Node.frames_normalizedAll c rest]

end

end Tidymark
