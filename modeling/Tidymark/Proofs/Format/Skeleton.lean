import Tidymark.Proofs.Format.Failures
import Tidymark.Proofs.Markdown.Mark

/-!
# Block skeletons

The skeleton of a document keeps what its blocks are and how lists are
nested, and drops all text and markers.  The standard pass keeps the skeleton
of what is read.  Rendering need not: a bullet in front of the text of an item
can make another block of its line.
-/

namespace Tidymark

/-- What is kept of a block: for each item of a list, only what is nested in it. -/
inductive Shape where
  | document
  | heading (level : Nat)
  | paragraph
  | list (ordered : Bool) (items : List (List Shape))
  | item (children : List Shape)
  | code (fenced : Bool)
  | text

mutual

def Node.shape : Node → Shape
  | .document _ => .document
  | .heading h => .heading h.level
  | .paragraph _ => .paragraph
  | .list l => l.shape
  | .item i => .item i.shapes
  | .code b => .code b.fenced
  | .text _ => .text

def ItemList.shape : ItemList → Shape
  | ⟨ordered, _, items⟩ => .list ordered (Item.shapesAll items)

def Item.shapes : Item → List Shape
  | ⟨_, _, children⟩ => Node.shapeAll children

def Item.shapesAll : List Item → List (List Shape)
  | [] => []
  | i :: rest => i.shapes :: Item.shapesAll rest

def Node.shapeAll : List Node → List Shape
  | [] => []
  | n :: rest => n.shape :: Node.shapeAll rest

end

/-- The block skeleton of a document. -/
def Document.skeleton (d : Document) : List Shape := d.map Node.shape

def Shape.kind : Shape → NodeKind
  | .document => .document
  | .heading _ => .heading
  | .paragraph => .paragraph
  | .list _ _ => .list
  | .item _ => .item
  | .code _ => .code
  | .text => .text

theorem Node.kind_shape (n : Node) : n.shape.kind = n.kind := by
  cases n with
  | list l =>
      obtain ⟨_, _, _⟩ := l
      rfl
  | document _ | heading _ | paragraph _ | item _ | code _ | text _ => rfl

theorem Document.kinds_skeleton (d : Document) : d.skeleton.map Shape.kind = d.map Node.kind := by
  rw [Document.skeleton, List.map_map]
  exact List.map_congr_left fun n _ => n.kind_shape

/-! ## Normalising keeps the skeleton -/

theorem CodeBlock.fenced_tidy (c : CodeConfig) (b : CodeBlock) : (b.tidy c).fenced = b.fenced := by
  rw [CodeBlock.tidy]
  split <;> rfl

mutual

theorem ItemList.shape_normalized (c : Config) (l : ItemList)
    (h : Placed.PlainItems l.descendants) : (l.normalized c).shape = l.shape := by
  match l with
  | ⟨ordered, _, items⟩ =>
      rw [ItemList.normalized, ItemList.shape, ItemList.shape,
        Item.shapesAll_numbered c ordered 1 items h]

theorem Item.shapesAll_numbered (c : Config) (ordered : Bool) (n : Nat) (is : List Item)
    (h : Placed.PlainItems (Item.preorder is)) :
    Item.shapesAll (Item.numbered c ordered n is) = Item.shapesAll is := by
  match is with
  | [] => rfl
  | ⟨_, _, children⟩ :: rest =>
      obtain ⟨hbelow, hrest⟩ := Item.plainItems_preorder_cons.mp h
      have hchildren := Node.shapeAll_normalizedAll c children hbelow
      have hrest := Item.shapesAll_numbered c ordered (n + 1) rest hrest
      simp only [Item.numbered, Item.normalized, Item.shapesAll, Item.shapes, hchildren, hrest]

theorem Node.shapeAll_normalizedAll (c : Config) (ns : List Node)
    (h : Placed.PlainItems (Node.preorder .item ns)) :
    Node.shapeAll (Node.normalizedAll c ns) = Node.shapeAll ns := by
  match ns with
  | [] => rfl
  | n :: rest =>
      obtain ⟨hkind, hbelow, hrest⟩ := Node.plainItems_preorder_cons.mp h
      have hrest := Node.shapeAll_normalizedAll c rest hrest
      match n, hkind rfl with
      | .list l, _ =>
          have hl := ItemList.shape_normalized c l hbelow
          simp only [Node.normalizedAll, Node.normalized, Node.shapeAll, Node.shape, hl, hrest]

end

/-- Normalising keeps what a node is and how lists are nested in it. -/
theorem Node.shape_normalized (c : Config) {n : Node} (hlevel : n.Leveled)
    (h : Placed.PlainItems n.descendants) : (n.normalized c).shape = n.shape := by
  cases n with
  | document _ | paragraph _ | text _ => rfl
  | heading g => exact congrArg Shape.heading (g.level_tidy c.heading hlevel)
  | code b => exact congrArg Shape.code (b.fenced_tidy c.code)
  | list l => exact l.shape_normalized c h
  | item i =>
      obtain ⟨_, _, children⟩ := i
      exact congrArg Shape.item (Node.shapeAll_normalizedAll c children h)

theorem Document.Renderable.skeleton_normalized (c : Config) {d : Document} (h : d.Renderable) :
    Document.skeleton (d.map (Node.normalized c)) = d.skeleton := by
  rw [Document.skeleton, Document.skeleton, List.map_map]
  exact List.map_congr_left fun n hn => Node.shape_normalized c (h.levels n hn) (h.plainItems hn)

/-- The standard pass keeps the skeleton of what is read. -/
theorem Engine.skeleton_format_read (c : Config) (source : Text) :
    ∃ d, standard.format c (Document.read source) = .ok d ∧
      d.skeleton = (Document.read source).skeleton := by
  have hread := Document.renderable_read source
  exact ⟨_, format_standard_of_wellShaped c hread.toWellShaped, hread.skeleton_normalized c⟩

/-! ## Items that become breaks -/

/-- The line of an item becomes a thematic break exactly if its text holds at least two of its
bullet and nothing else but spaces and tabs; a plus never makes one. -/
theorem Render.thematicBreak?_itemLines_iff {style : BulletStyle} {mark : Char} {text : Text}
    (hmark : style.token = [mark]) (hne : text ≠ [])
    (hline : ∀ c ∈ text, Markdown.isLineEnd c = false) :
    (Markdown.thematicBreak? (itemLines 0 style.token text)).isSome ↔
      style ≠ .plus ∧ (∀ c ∈ text, c = mark ∨ c = ' ' ∨ c = '\t') ∧ 2 ≤ text.count mark := by
  have hbreak : '\n' ∉ text := fun hmem => by cases hline _ hmem
  have hlines : itemLines 0 style.token text = mark :: ' ' :: text ++ ['\n'] := by
    rw [itemLines, Text.lines_of_not_mem hbreak, hmark]
    simp [hne]
  rw [hlines]
  by_cases hplus : style = .plus
  · subst hplus
    cases hmark
    constructor
    · intro h
      cases h
    · rintro ⟨h, _⟩
      exact absurd rfl h
  · have hkind : mark = '*' ∨ mark = '-' ∨ mark = '_' := by
      cases style with
      | dash => cases hmark; decide
      | asterisk => cases hmark; decide
      | plus => exact absurd rfl hplus
    have hends : ∀ c ∈ mark :: ' ' :: text, Markdown.isLineEnd c = false := by
      rw [List.forall_mem_cons, List.forall_mem_cons]
      refine ⟨?_, by decide, hline⟩
      rcases hkind with rfl | rfl | rfl <;> decide
    have hblank : ' ' ≠ mark := by rcases hkind with rfl | rfl | rfl <;> decide
    rw [Markdown.thematicBreak?_line_iff hkind hends, List.forall_mem_cons, List.forall_mem_cons,
      List.count_cons_self, List.count_cons_of_ne hblank]
    constructor
    · rintro ⟨⟨_, _, hall⟩, hcount⟩
      exact ⟨hplus, hall, Nat.le_of_succ_le_succ hcount⟩
    · rintro ⟨_, hall, hcount⟩
      exact ⟨⟨.inl rfl, .inr (.inl rfl), hall⟩, Nat.succ_le_succ hcount⟩

/-- Rendering and reading again need not keep the skeleton.  The item `+ --` gets the bullet that
makes its line a thematic break. -/
theorem skeleton_not_preserved :
    ¬∀ (c : Config) (source t : Text) (d : Document), c.list.consistentIndentation = true →
      c.whitespace.maxBlankLines ≠ 0 →
      Engine.standard.format c (Document.read source) = .ok d → d.render c = .ok t →
      (Document.read t).skeleton = d.skeleton := by
  intro hkeeps
  have hread := Document.renderable_read "+ --\n".toList
  have hformat := Engine.format_standard_of_wellShaped {} hread.toWellShaped
  have hrender : Document.render {} ((Document.read "+ --\n".toList).map (Node.normalized {})) =
      .ok "- --\n".toList :=
    ok_of_toOption (by decide +kernel)
  have hkinds := congrArg (List.map Shape.kind) (hkeeps {} _ _ _ rfl (by decide) hformat hrender)
  rw [hread.skeleton_normalized {}, Document.kinds_skeleton, Document.kinds_skeleton] at hkinds
  have hbefore : (Document.read "+ --\n".toList).map Node.kind = [.list] := by decide +kernel
  have hafter : (Document.read "- --\n".toList).map Node.kind = [.text] := by decide +kernel
  rw [hbefore, hafter] at hkinds
  cases hkinds

end Tidymark
