import Tidymark.Proofs.Document.Preorder
import Tidymark.Render

/-!
# What can be rendered

Rendering succeeds exactly if no document stands in the document, at every
depth items hold lists only, and the headings among the roots have levels
from 1 to 6.  The configuration has no part in it.
-/

namespace Tidymark

/-- The level of a node is in range, if it is a heading. -/
def Node.Leveled : Node → Prop
  | .heading h => 1 ≤ h.level ∧ h.level ≤ 6
  | _ => True

/-- A well-shaped document with the levels of its headings in range. -/
structure Document.Renderable (d : Document) : Prop extends Document.WellShaped d where
  levels : ∀ n ∈ d, n.Leveled

theorem Document.renderable_nil : Document.Renderable [] :=
  ⟨⟨fun _ hn => absurd hn List.not_mem_nil, Placed.plainItems_nil⟩,
    fun _ hn => absurd hn List.not_mem_nil⟩

theorem Document.renderable_cons {n : Node} {d : Document} :
    Document.Renderable (n :: d) ↔
      (n.kind ≠ .document ∧ Placed.PlainItems n.descendants ∧ n.Leveled) ∧ d.Renderable := by
  constructor
  · rintro ⟨⟨hroots, hchildren⟩, hlevels⟩
    rw [List.forall_mem_cons] at hroots hlevels
    obtain ⟨_, hbelow, hrest⟩ := Node.plainItems_preorder_cons.mp hchildren
    exact ⟨⟨hroots.1, hbelow, hlevels.1⟩, ⟨⟨hroots.2, hrest⟩, hlevels.2⟩⟩
  · rintro ⟨⟨hkind, hplain, hlevel⟩, ⟨⟨hroots, hchildren⟩, hlevels⟩⟩
    refine ⟨⟨List.forall_mem_cons.mpr ⟨hkind, hroots⟩, ?_⟩,
      List.forall_mem_cons.mpr ⟨hlevel, hlevels⟩⟩
    exact Node.plainItems_preorder_cons.mpr ⟨by simp, hplain, hchildren⟩

theorem Document.Renderable.consLeaf {n : Node} {d : Document} (hd : d.Renderable)
    (hkind : n.kind ≠ .document) (hbelow : n.descendants = []) (hlevel : n.Leveled) :
    Document.Renderable (n :: d) := by
  refine Document.renderable_cons.mpr ⟨⟨hkind, ?_, hlevel⟩, hd⟩
  rw [hbelow]
  exact Placed.plainItems_nil

theorem Document.Renderable.consItems {l : ItemList} {d : Document} (hd : d.Renderable)
    (hl : Placed.PlainItems l.descendants) : Document.Renderable (.list l :: d) :=
  Document.renderable_cons.mpr ⟨⟨by simp [Node.kind], hl, trivial⟩, hd⟩

theorem ok_of_toOption {α : Type} {x : Except Failure α} {t : α} (h : x.toOption = some t) :
    x = .ok t := by
  cases x with
  | error e => cases h
  | ok s =>
      cases h
      rfl

namespace Render

theorem exists_ok_append {x y : Except Failure Text} :
    (∃ t, (do
      let first ← x
      let rest ← y
      return first ++ rest) = .ok t) ↔ (∃ t, x = .ok t) ∧ ∃ t, y = .ok t := by
  constructor
  · rintro ⟨t, h⟩
    cases x with
    | error e => cases h
    | ok first =>
        cases y with
        | error e => cases h
        | ok rest => exact ⟨⟨first, rfl⟩, rest, rfl⟩
  · rintro ⟨⟨first, rfl⟩, rest, rfl⟩
    exact ⟨first ++ rest, rfl⟩

theorem exists_append_of_ok {x y : Except Failure Text} {t : Text}
    (h : (do
      let first ← x
      let rest ← y
      return first ++ rest) = .ok t) : ∃ first rest, x = .ok first ∧ y = .ok rest ∧
        t = first ++ rest := by
  cases x with
  | error e => cases h
  | ok first =>
      cases y with
      | error e => cases h
      | ok rest =>
          cases h
          exact ⟨first, rest, rfl, rfl, rfl⟩

theorem exists_ok_map {f : Text → Text} {x : Except Failure Text} :
    (∃ t, f <$> x = .ok t) ↔ ∃ t, x = .ok t := by
  constructor
  · rintro ⟨t, h⟩
    cases x with
    | error e => cases h
    | ok s => exact ⟨s, rfl⟩
  · rintro ⟨s, rfl⟩
    exact ⟨f s, rfl⟩

mutual

/-- Items are rendered exactly if at every depth items hold lists only. -/
theorem exists_items_iff (c : ListConfig) (indent : Nat) (is : List Item) :
    (∃ t, items c indent is = .ok t) ↔ Placed.PlainItems (Item.preorder is) := by
  match is with
  | [] => exact ⟨fun _ => Placed.plainItems_nil, fun _ => ⟨[], rfl⟩⟩
  | i :: rest =>
      rw [items, exists_ok_append, exists_item_iff c indent i, exists_items_iff c indent rest,
        Item.plainItems_preorder_cons]

theorem exists_item_iff (c : ListConfig) (indent : Nat) (i : Item) :
    (∃ t, item c indent i = .ok t) ↔ Placed.PlainItems i.descendants := by
  match i with
  | ⟨marker, text, children⟩ =>
      rw [Item.descendants, ← exists_itemChildren_iff c
        (nestedIndent c indent (shownMarker c marker)) children]
      exact exists_ok_map

theorem exists_itemChildren_iff (c : ListConfig) (indent : Nat) (ns : List Node) :
    (∃ t, itemChildren c indent ns = .ok t) ↔ Placed.PlainItems (Node.preorder .item ns) := by
  match ns with
  | [] => exact ⟨fun _ => Placed.plainItems_nil, fun _ => ⟨[], rfl⟩⟩
  | .list ⟨_, _, is⟩ :: rest =>
      rw [itemChildren, exists_ok_append, exists_items_iff c indent is,
        exists_itemChildren_iff c indent rest, Node.plainItems_preorder_cons]
      exact ⟨fun h => ⟨fun _ => rfl, h⟩, fun h => h.2⟩
  | .document _ :: _ | .heading _ :: _ | .paragraph _ :: _ | .item _ :: _ | .code _ :: _
  | .text _ :: _ =>
      rw [Node.plainItems_preorder_cons]
      constructor
      · rintro ⟨t, h⟩
        cases h
      · rintro ⟨h, _⟩
        cases h rfl

end

/-- A root is rendered exactly if it is no document, the items below it hold lists only, and its
level is in range. -/
theorem exists_node_iff (c : Config) (n : Node) :
    (∃ t, node c n = .ok t) ↔
      n.kind ≠ .document ∧ Placed.PlainItems n.descendants ∧ n.Leveled := by
  cases n with
  | document _ =>
      constructor
      · rintro ⟨t, h⟩
        cases h
      · rintro ⟨h, _⟩
        exact absurd rfl h
  | heading h =>
      rw [node, heading]
      split
      · next hlevel =>
          refine ⟨fun _ => ⟨by simp [Node.kind], Placed.plainItems_nil, hlevel⟩, fun _ => ?_⟩
          simp only
          split <;> exact ⟨_, rfl⟩
      · next hlevel =>
          constructor
          · rintro ⟨t, h⟩
            cases h
          · rintro ⟨_, _, h⟩
            exact absurd h hlevel
  | paragraph _ | code _ | text _ =>
      exact ⟨fun _ => ⟨by simp [Node.kind], Placed.plainItems_nil, trivial⟩, fun _ => ⟨_, rfl⟩⟩
  | list l =>
      obtain ⟨_, _, is⟩ := l
      rw [node, exists_ok_map, exists_items_iff c.list 0 is]
      exact ⟨fun h => ⟨by simp [Node.kind], h, trivial⟩, fun h => h.2.1⟩
  | item i =>
      rw [node, exists_ok_map, exists_item_iff c.list 0 i]
      exact ⟨fun h => ⟨by simp [Node.kind], h, trivial⟩, fun h => h.2.1⟩

theorem exists_body_iff (c : Config) (d : Document) :
    (∃ t, body c d = .ok t) ↔ d.Renderable := by
  induction d with
  | nil => exact ⟨fun _ => Document.renderable_nil, fun _ => ⟨[], rfl⟩⟩
  | cons n rest ih =>
      rw [body, exists_ok_append, exists_node_iff, ih, Document.renderable_cons]

end Render

theorem Document.exists_of_render {c : Config} {d : Document} {t : Text} (h : d.render c = .ok t) :
    ∃ s, Render.body c d = .ok s ∧ t = Render.finish c.whitespace s := by
  rw [render] at h
  cases hbody : Render.body c d with
  | error e =>
      rw [hbody] at h
      cases h
  | ok s =>
      rw [hbody] at h
      cases h
      exact ⟨s, rfl, rfl⟩

/-- Rendering succeeds exactly on the documents that can be rendered, under every
configuration. -/
theorem Document.exists_render_iff (c : Config) (d : Document) :
    (∃ t, d.render c = .ok t) ↔ d.Renderable := by
  rw [Document.render, Render.exists_ok_map, Render.exists_body_iff]

end Tidymark
