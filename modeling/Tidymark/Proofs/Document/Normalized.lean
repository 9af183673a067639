import Tidymark.Proofs.Document.Preorder
import Tidymark.Proofs.Text.Words
import Tidymark.Rule

/-!
# Normalised documents

The normal form of a document replaces each node by what the configuration
makes of it alone; only the number of an item comes from its place in its
list.  Tidying a list gives its normal form unless a node below it is
misplaced, and normalising settles: a second time changes nothing.
-/

namespace Tidymark

mutual

/-- A node as the configuration wants it. -/
def Node.normalized (c : Config) : Node → Node
  | .document children => .document children
  | .heading h => .heading (h.tidy c.heading)
  | .paragraph s => .paragraph (tidyParagraph c.lineWidth s)
  | .list l => .list (l.normalized c)
  | .item i => .item (i.normalized c)
  | .code b => .code (b.tidy c.code)
  | .text s => .text (cleanup s)

/-- A list with the configured marker and its items numbered from one. -/
def ItemList.normalized (c : Config) : ItemList → ItemList
  | ⟨ordered, _, items⟩ => ⟨ordered, c.list.listMarker ordered, Item.numbered c ordered 1 items⟩

/-- An item with its own marker, its text trimmed and one blank between words. -/
def Item.normalized (c : Config) : Item → Item
  | ⟨marker, text, children⟩ =>
      ⟨marker, Text.collapseBlanks (Text.trim text), Node.normalizedAll c children⟩

/-- Consecutive items of a list, the first of which is the `n`-th. -/
def Item.numbered (c : Config) (ordered : Bool) (n : Nat) : List Item → List Item
  | [] => []
  | i :: rest =>
      { i.normalized c with marker := c.list.itemMarker ordered n } ::
        Item.numbered c ordered (n + 1) rest

def Node.normalizedAll (c : Config) : List Node → List Node
  | [] => []
  | n :: rest => n.normalized c :: Node.normalizedAll c rest

end

theorem Node.normalizedAll_eq_map (c : Config) (ns : List Node) :
    Node.normalizedAll c ns = ns.map (Node.normalized c) := by
  induction ns with
  | nil => rfl
  | cons n rest ih => rw [Node.normalizedAll, ih, List.map_cons]

@[simp] theorem Node.kind_normalized (c : Config) (n : Node) : (n.normalized c).kind = n.kind := by
  cases n <;> rfl

theorem Item.getElem?_numbered (c : Config) (ordered : Bool) (n k : Nat) (is : List Item) :
    (Item.numbered c ordered n is)[k]? =
      is[k]?.map fun i => { i.normalized c with marker := c.list.itemMarker ordered (n + k) } := by
  induction is generalizing n k with
  | nil => rfl
  | cons i rest ih =>
      cases k with
      | zero => rfl
      | succ k =>
          rw [Item.numbered, List.getElem?_cons_succ, List.getElem?_cons_succ, ih]
          rw [Nat.add_right_comm, Nat.add_assoc]

/-! ## Tidying is checking and normalising -/

theorem Placed.check_item (n : Node) (ps : List Placed) :
    Placed.check (⟨.item, n⟩ :: ps) =
      if n.kind = .list then Placed.check ps
      else .error (.rejected "list" n.kind "list items may only contain nested lists") := by
  split
  · next h => exact Placed.check_cons (by simp [Placed.misplaced, h]) ps
  · next h => exact Placed.check_cons_of_misplaced (by simp [Placed.misplaced, h]) ps

mutual

/-- Tidying a list fails with the first misplaced node below it, or normalises it. -/
theorem ItemList.tidy_eq (c : Config) (l : ItemList) :
    l.tidy c.list = Placed.check l.descendants >>= fun _ => .ok (l.normalized c) := by
  match l with
  | ⟨ordered, marker, items⟩ =>
      rw [ItemList.tidy, Item.tidyAll_eq c ordered 1 items, ItemList.descendants]
      cases Placed.check (Item.preorder items) with
      | error e => rfl
      | ok _ => rfl

theorem Item.tidyAll_eq (c : Config) (ordered : Bool) (n : Nat) (is : List Item) :
    Item.tidyAll c.list ordered n is =
      Placed.check (Item.preorder is) >>= fun _ => .ok (Item.numbered c ordered n is) := by
  match is with
  | [] => rfl
  | ⟨marker, text, children⟩ :: rest =>
      rw [Item.tidyAll, Node.tidyChildren_eq c children, Item.tidyAll_eq c ordered (n + 1) rest,
        Item.preorder, Placed.check_cons rfl, Placed.check_append, Item.descendants]
      cases Placed.check (Node.preorder .item children) with
      | error e => rfl
      | ok _ =>
          cases Placed.check (Item.preorder rest) with
          | error e => rfl
          | ok _ => rfl

theorem Node.tidyChildren_eq (c : Config) (ns : List Node) :
    Node.tidyChildren c.list ns =
      Placed.check (Node.preorder .item ns) >>= fun _ => .ok (Node.normalizedAll c ns) := by
  match ns with
  | [] => rfl
  | .list l :: rest =>
      have hl : (Node.list l).kind = .list := rfl
      rw [Node.tidyChildren, ItemList.tidy_eq c l, Node.tidyChildren_eq c rest, Node.preorder,
        Placed.check_item, if_pos hl, Placed.check_append, Node.descendants]
      cases Placed.check l.descendants with
      | error e => rfl
      | ok _ =>
          cases Placed.check (Node.preorder .item rest) with
          | error e => rfl
          | ok _ => rfl
  | .document _ :: _ | .heading _ :: _ | .paragraph _ :: _ | .item _ :: _ | .code _ :: _
  | .text _ :: _ => rfl

end

theorem Item.tidy_eq (c : Config) (i : Item) :
    i.tidy c.list = Placed.check i.descendants >>= fun _ => .ok (i.normalized c) := by
  obtain ⟨marker, text, children⟩ := i
  rw [Item.tidy, Node.tidyChildren_eq c children, Item.descendants]
  cases Placed.check (Node.preorder .item children) with
  | error e => rfl
  | ok _ => rfl

/-! ## Normalising settles -/

/-- Where a node stands: the kinds of its parent and of the node itself. -/
def Placed.kinds (p : Placed) : NodeKind × NodeKind := (p.parent, p.node.kind)

theorem Placed.plainItems_of_kinds {ps qs : List Placed} (hkinds : ps.map kinds = qs.map kinds)
    (h : PlainItems qs) : PlainItems ps := by
  intro p hp hparent
  have hmem : p.kinds ∈ qs.map kinds := hkinds ▸ List.mem_map_of_mem hp
  obtain ⟨q, hq, heq⟩ := List.mem_map.mp hmem
  rw [kinds, kinds, Prod.mk.injEq] at heq
  rw [← heq.2]
  exact h q hq (heq.1.trans hparent)

mutual

theorem Node.kinds_descendants_normalized (c : Config) (n : Node) :
    (n.normalized c).descendants.map Placed.kinds = n.descendants.map Placed.kinds := by
  match n with
  | .document _ | .heading _ | .paragraph _ | .code _ | .text _ => rfl
  | .list ⟨ordered, _, items⟩ => exact Item.kinds_preorder_numbered c ordered 1 items
  | .item ⟨_, _, children⟩ => exact Node.kinds_preorder_normalizedAll c .item children

theorem Item.kinds_preorder_numbered (c : Config) (ordered : Bool) (n : Nat) (is : List Item) :
    (Item.preorder (Item.numbered c ordered n is)).map Placed.kinds =
      (Item.preorder is).map Placed.kinds := by
  match is with
  | [] => rfl
  | ⟨_, _, children⟩ :: rest =>
      have hchildren := Node.kinds_preorder_normalizedAll c .item children
      have hrest := Item.kinds_preorder_numbered c ordered (n + 1) rest
      simp only [Item.numbered, Item.normalized, Item.preorder, Item.descendants, List.map_cons,
        List.map_append, hchildren, hrest]
      rfl

theorem Node.kinds_preorder_normalizedAll (c : Config) (parent : NodeKind) (ns : List Node) :
    (Node.preorder parent (Node.normalizedAll c ns)).map Placed.kinds =
      (Node.preorder parent ns).map Placed.kinds := by
  match ns with
  | [] => rfl
  | n :: rest =>
      have hn := Node.kinds_descendants_normalized c n
      have hrest := Node.kinds_preorder_normalizedAll c parent rest
      simp only [Node.normalizedAll, Node.preorder, List.map_cons, List.map_append, hn, hrest,
        Placed.kinds, Node.kind_normalized]

end

/-- Normalising leaves a document well shaped. -/
theorem Document.WellShaped.normalized (c : Config) {d : Document} (h : d.WellShaped) :
    Document.WellShaped (d.map (Node.normalized c)) where
  roots := by
    intro n hn
    obtain ⟨m, hm, rfl⟩ := List.mem_map.mp hn
    rw [Node.kind_normalized]
    exact h.roots m hm
  children := by
    rw [← Node.normalizedAll_eq_map]
    exact Placed.plainItems_of_kinds (Node.kinds_preorder_normalizedAll c .document d) h.children

mutual

/-- Normalising a list a second time changes nothing, where items hold lists only. -/
theorem ItemList.normalized_normalized (c : Config) (l : ItemList)
    (h : Placed.PlainItems l.descendants) : (l.normalized c).normalized c = l.normalized c := by
  match l with
  | ⟨ordered, _, items⟩ =>
      rw [ItemList.normalized, ItemList.normalized, Item.numbered_numbered c ordered 1 items h]

theorem Item.numbered_numbered (c : Config) (ordered : Bool) (n : Nat) (is : List Item)
    (h : Placed.PlainItems (Item.preorder is)) :
    Item.numbered c ordered n (Item.numbered c ordered n is) = Item.numbered c ordered n is := by
  match is with
  | [] => rfl
  | ⟨_, text, children⟩ :: rest =>
      obtain ⟨hbelow, hrest⟩ := Item.plainItems_preorder_cons.mp h
      have hchildren := Node.normalizedAll_normalizedAll c children hbelow
      have hrest := Item.numbered_numbered c ordered (n + 1) rest hrest
      simp only [Item.numbered, Item.normalized, Text.collapseBlanks_trim_idem, hchildren, hrest]

theorem Node.normalizedAll_normalizedAll (c : Config) (ns : List Node)
    (h : Placed.PlainItems (Node.preorder .item ns)) :
    Node.normalizedAll c (Node.normalizedAll c ns) = Node.normalizedAll c ns := by
  match ns with
  | [] => rfl
  | n :: rest =>
      obtain ⟨hkind, hbelow, hrest⟩ := Node.plainItems_preorder_cons.mp h
      have hrest := Node.normalizedAll_normalizedAll c rest hrest
      match n, hkind rfl with
      | .list l, _ =>
          have hl := ItemList.normalized_normalized c l hbelow
          simp only [Node.normalizedAll, Node.normalized, hl, hrest]

end

theorem Item.normalized_normalized (c : Config) (i : Item)
    (h : Placed.PlainItems i.descendants) : (i.normalized c).normalized c = i.normalized c := by
  obtain ⟨marker, text, children⟩ := i
  rw [Item.normalized, Item.normalized, Text.collapseBlanks_trim_idem,
    Node.normalizedAll_normalizedAll c children h]

end Tidymark
