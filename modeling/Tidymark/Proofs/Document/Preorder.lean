import Tidymark.Failure

/-!
# Nodes in preorder

The nodes of a document are listed in preorder, each with the kind of its
parent.  Documents may not stand in documents, and items may hold lists only.
The check of a listing fails with what is wrong with the first node that
stands where it must not.
-/

namespace Tidymark

/-- A node and the kind of its parent. -/
structure Placed where
  parent : NodeKind
  node : Node

mutual

/-- The nodes below a node, in preorder. -/
def Node.descendants : Node → List Placed
  | .document children => Node.preorder .document children
  | .heading _ => []
  | .paragraph _ => []
  | .list l => l.descendants
  | .item i => i.descendants
  | .code _ => []
  | .text _ => []

def ItemList.descendants : ItemList → List Placed
  | ⟨_, _, items⟩ => Item.preorder items

def Item.descendants : Item → List Placed
  | ⟨_, _, children⟩ => Node.preorder .item children

/-- Sibling nodes and those below them, in preorder. -/
def Node.preorder (parent : NodeKind) : List Node → List Placed
  | [] => []
  | n :: rest => ⟨parent, n⟩ :: (n.descendants ++ Node.preorder parent rest)

/-- The items of a list and the nodes below them, in preorder. -/
def Item.preorder : List Item → List Placed
  | [] => []
  | i :: rest => ⟨.list, .item i⟩ :: (i.descendants ++ Item.preorder rest)

end

def Document.preorder (d : Document) : List Placed := Node.preorder .document d

namespace Placed

/-- Whether a node stands where it must not: a document in a document, or anything but a list in
an item. -/
def misplaced (p : Placed) : Bool :=
  match p.parent with
  | .document => p.node.kind == .document
  | .item => p.node.kind != .list
  | _ => false

/-- What is said of a misplaced node. -/
def failure (p : Placed) : Failure :=
  match p.parent with
  | .item => .rejected "list" p.node.kind "list items may only contain nested lists"
  | _ => .rejected "engine" p.node.kind "documents cannot be nested"

def check (ps : List Placed) : Except Failure Unit :=
  match ps.find? misplaced with
  | some p => .error p.failure
  | none => .ok ()

theorem check_cons_of_misplaced {p : Placed} (hp : p.misplaced = true) (ps : List Placed) :
    check (p :: ps) = .error p.failure := by
  simp [check, hp]

theorem check_cons {p : Placed} (hp : p.misplaced = false) (ps : List Placed) :
    check (p :: ps) = check ps := by
  simp [check, hp]

theorem check_append (ps qs : List Placed) :
    check (ps ++ qs) = check ps >>= fun _ => check qs := by
  induction ps with
  | nil => rfl
  | cons p ps ih =>
      cases hp : p.misplaced with
      | true => rw [List.cons_append, check_cons_of_misplaced hp, check_cons_of_misplaced hp]; rfl
      | false => rw [List.cons_append, check_cons hp, check_cons hp, ih]

theorem check_eq_ok_iff {ps : List Placed} :
    check ps = .ok () ↔ ∀ p ∈ ps, p.misplaced = false := by
  cases hfind : ps.find? misplaced with
  | none =>
      rw [List.find?_eq_none] at hfind
      simpa [check, List.find?_eq_none.mpr hfind] using hfind
  | some p =>
      have hmem := List.mem_of_find?_eq_some hfind
      have hp := List.find?_some hfind
      simp only [check, hfind, reduceCtorEq, false_iff]
      intro hall
      rw [hall p hmem] at hp
      cases hp

/-- Every child of an item is a list. -/
def PlainItems (ps : List Placed) : Prop := ∀ p ∈ ps, p.parent = .item → p.node.kind = .list

@[simp] theorem plainItems_nil : PlainItems [] := fun _ hp => absurd hp List.not_mem_nil

@[simp] theorem plainItems_cons {p : Placed} {ps : List Placed} :
    PlainItems (p :: ps) ↔ (p.parent = .item → p.node.kind = .list) ∧ PlainItems ps :=
  List.forall_mem_cons

end Placed

theorem Node.forall_preorder_cons {Q : Placed → Prop} {parent : NodeKind} {n : Node}
    {ns : List Node} : (∀ p ∈ Node.preorder parent (n :: ns), Q p) ↔
      Q ⟨parent, n⟩ ∧ (∀ p ∈ n.descendants, Q p) ∧ ∀ p ∈ Node.preorder parent ns, Q p := by
  rw [Node.preorder, List.forall_mem_cons, List.forall_mem_append]

theorem Item.forall_preorder_cons {Q : Placed → Prop} {i : Item} {is : List Item} :
    (∀ p ∈ Item.preorder (i :: is), Q p) ↔
      Q ⟨.list, .item i⟩ ∧ (∀ p ∈ i.descendants, Q p) ∧ ∀ p ∈ Item.preorder is, Q p := by
  rw [Item.preorder, List.forall_mem_cons, List.forall_mem_append]

theorem Node.plainItems_preorder_cons {parent : NodeKind} {n : Node} {ns : List Node} :
    Placed.PlainItems (Node.preorder parent (n :: ns)) ↔
      (parent = .item → n.kind = .list) ∧ Placed.PlainItems n.descendants ∧
        Placed.PlainItems (Node.preorder parent ns) :=
  Node.forall_preorder_cons

theorem Item.plainItems_preorder_cons {i : Item} {is : List Item} :
    Placed.PlainItems (Item.preorder (i :: is)) ↔
      Placed.PlainItems i.descendants ∧ Placed.PlainItems (Item.preorder is) :=
  Item.forall_preorder_cons.trans (and_iff_right fun h => by cases h)

/-- No document stands in the document, and at every depth the children of items are lists. -/
structure Document.WellShaped (d : Document) : Prop where
  roots : ∀ n ∈ d, n.kind ≠ .document
  children : Placed.PlainItems d.preorder

theorem Node.mem_preorder {parent : NodeKind} {ns : List Node} {n : Node} (hn : n ∈ ns) :
    ⟨parent, n⟩ ∈ Node.preorder parent ns := by
  induction ns with
  | nil => cases hn
  | cons m rest ih =>
      rw [Node.preorder, List.mem_cons, List.mem_append]
      rcases List.mem_cons.mp hn with rfl | hn
      · exact .inl rfl
      · exact .inr (.inr (ih hn))

theorem Node.mem_preorder_of_descendant {parent : NodeKind} {ns : List Node} {n : Node}
    {p : Placed} (hn : n ∈ ns) (hp : p ∈ n.descendants) : p ∈ Node.preorder parent ns := by
  induction ns with
  | nil => cases hn
  | cons m rest ih =>
      rw [Node.preorder, List.mem_cons, List.mem_append]
      rcases List.mem_cons.mp hn with rfl | hn
      · exact .inr (.inl hp)
      · exact .inr (.inr (ih hn))

theorem Document.WellShaped.plainItems {d : Document} (h : d.WellShaped) {n : Node} (hn : n ∈ d) :
    Placed.PlainItems n.descendants :=
  fun p hp => h.children p (Node.mem_preorder_of_descendant hn hp)

theorem Item.mem_preorder_of_descendant {is : List Item} {i : Item} {p : Placed} (hi : i ∈ is)
    (hp : p ∈ i.descendants) : p ∈ Item.preorder is := by
  induction is with
  | nil => cases hi
  | cons j rest ih =>
      rw [Item.preorder, List.mem_cons, List.mem_append]
      rcases List.mem_cons.mp hi with rfl | hi
      · exact .inr (.inl hp)
      · exact .inr (.inr (ih hi))

/-! Where the children of items are lists, only lists and items stand below the roots. -/

mutual

theorem Node.kind_of_descendants (n : Node) (hn : n.kind ≠ .document)
    (h : Placed.PlainItems n.descendants) :
    ∀ p ∈ n.descendants, p.node.kind = .list ∨ p.node.kind = .item := by
  match n with
  | .document _ => exact absurd rfl hn
  | .heading _ | .paragraph _ | .code _ | .text _ => intro p hp; cases hp
  | .list ⟨_, _, items⟩ => exact Item.kind_of_preorder items h
  | .item ⟨_, _, children⟩ =>
      exact Node.kind_of_preorder .item children (fun m hm => h _ (Node.mem_preorder hm) rfl) h

theorem Item.kind_of_preorder (items : List Item) (h : Placed.PlainItems (Item.preorder items)) :
    ∀ p ∈ Item.preorder items, p.node.kind = .list ∨ p.node.kind = .item := by
  match items with
  | [] => intro p hp; cases hp
  | ⟨_, _, children⟩ :: rest =>
      obtain ⟨hbelow, hrest⟩ := Item.plainItems_preorder_cons.mp h
      have hchildren : ∀ m ∈ children, m.kind = .list := fun m hm =>
        hbelow _ (Node.mem_preorder hm) rfl
      rw [Item.preorder, List.forall_mem_cons, List.forall_mem_append]
      exact ⟨.inr rfl, Node.kind_of_preorder .item children hchildren hbelow,
        Item.kind_of_preorder rest hrest⟩

theorem Node.kind_of_preorder (parent : NodeKind) (ns : List Node)
    (hns : ∀ n ∈ ns, n.kind = .list) (h : Placed.PlainItems (Node.preorder parent ns)) :
    ∀ p ∈ Node.preorder parent ns, p.node.kind = .list ∨ p.node.kind = .item := by
  match ns with
  | [] => intro p hp; cases hp
  | n :: rest =>
      obtain ⟨_, hbelow, hrest⟩ := Node.plainItems_preorder_cons.mp h
      obtain ⟨hn, hns⟩ := List.forall_mem_cons.mp hns
      have hdocument : n.kind ≠ .document := by
        rw [hn]
        decide
      rw [Node.preorder, List.forall_mem_cons, List.forall_mem_append]
      exact ⟨.inl hn, Node.kind_of_descendants n hdocument hbelow,
        Node.kind_of_preorder parent rest hns hrest⟩

end

theorem Node.exists_of_mem_preorder {parent : NodeKind} {ns : List Node} {p : Placed}
    (hp : p ∈ Node.preorder parent ns) : ∃ n ∈ ns, p = ⟨parent, n⟩ ∨ p ∈ n.descendants := by
  induction ns with
  | nil => cases hp
  | cons m rest ih =>
      rw [Node.preorder, List.mem_cons, List.mem_append] at hp
      rcases hp with rfl | hp | hp
      · exact ⟨m, List.mem_cons_self, .inl rfl⟩
      · exact ⟨m, List.mem_cons_self, .inr hp⟩
      · obtain ⟨n, hn, hp⟩ := ih hp
        exact ⟨n, List.mem_cons_of_mem _ hn, hp⟩

theorem Document.WellShaped.root_or_kind {d : Document} (h : d.WellShaped) {p : Placed}
    (hp : p ∈ d.preorder) : p.node ∈ d ∨ p.node.kind = .list ∨ p.node.kind = .item := by
  obtain ⟨n, hn, rfl | hp⟩ := Node.exists_of_mem_preorder hp
  · exact .inl hn
  · exact .inr (Node.kind_of_descendants n (h.roots n hn) (h.plainItems hn) p hp)

namespace Placed

theorem plainItems_of_check {ps : List Placed} (h : check ps = .ok ()) : PlainItems ps := by
  intro p hp hparent
  simpa [misplaced, hparent] using check_eq_ok_iff.mp h p hp

theorem check_of_plainItems {ps : List Placed} (h : PlainItems ps)
    (hkind : ∀ p ∈ ps, p.node.kind ≠ .document) : check ps = .ok () := by
  refine check_eq_ok_iff.mpr fun p hp => ?_
  cases hparent : p.parent with
  | document => simpa [misplaced, hparent] using hkind p hp
  | item => simpa [misplaced, hparent] using h p hp hparent
  | _ => simp [misplaced, hparent]

end Placed

theorem Node.check_descendants_iff {n : Node} (hn : n.kind ≠ .document) :
    Placed.check n.descendants = .ok () ↔ Placed.PlainItems n.descendants :=
  ⟨Placed.plainItems_of_check, fun h => Placed.check_of_plainItems h fun p hp => by
    rcases Node.kind_of_descendants n hn h p hp with hkind | hkind <;> rw [hkind] <;> decide⟩

/-- Nothing is wrong with a document exactly if it is well shaped. -/
theorem Document.check_preorder_iff {d : Document} :
    Placed.check d.preorder = .ok () ↔ d.WellShaped := by
  constructor
  · intro h
    refine ⟨fun n hn => ?_, Placed.plainItems_of_check h⟩
    simpa [Placed.misplaced] using Placed.check_eq_ok_iff.mp h _ (Node.mem_preorder hn)
  · intro h
    refine Placed.check_of_plainItems h.children fun p hp => ?_
    rcases h.root_or_kind hp with hroot | hkind | hkind
    · exact h.roots _ hroot
    · rw [hkind]
      decide
    · rw [hkind]
      decide

end Tidymark
