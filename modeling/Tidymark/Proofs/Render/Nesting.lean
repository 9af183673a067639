import Mathlib.Data.List.Chain
import Tidymark.Proofs.Render.Rows

/-!
# Lists told from their text

Below the row of an item stand the rows of what is nested in it, indented
deeper; the next row that is not deeper starts the next item, or the next list
if its marker is of the other kind.  So two lists with the configured markers
that are written alike are the same list.
-/

namespace Tidymark

/-! ## Regular lists -/

/-- Not two lists of the same kind. -/
def Node.Apart (a b : Node) : Prop :=
  ∀ l m, a = .list l → b = .list m → l.ordered ≠ m.ordered

/-- Consecutive items of a list, the first of which is the `n`-th: they have the configured
markers and texts of one line, and no list nested in one stands beside another of its kind. -/
structure Item.Regular (c : ListConfig) (ordered : Bool) (n : Nat) (is : List Item) : Prop where
  markers : ∀ k i, is[k]? = some i → i.marker = c.itemMarker ordered (n + k)
  one_line : ∀ i ∈ is, '\n' ∉ i.text
  apart : ∀ i ∈ is, i.children.IsChain Node.Apart

/-- A list with the configured marker that holds items, all of them regular. -/
structure ItemList.Regular (c : ListConfig) (l : ItemList) : Prop where
  marker_eq : l.marker = c.listMarker l.ordered
  items_ne_nil : l.items ≠ []
  items : Item.Regular c l.ordered 1 l.items

theorem Item.Regular.of_cons {c : ListConfig} {ordered : Bool} {n : Nat} {i : Item}
    {is : List Item} (h : Regular c ordered n (i :: is)) :
    i.marker = c.itemMarker ordered n ∧ '\n' ∉ i.text ∧ i.children.IsChain Node.Apart ∧
      Regular c ordered (n + 1) is := by
  refine ⟨h.markers 0 i rfl, h.one_line i List.mem_cons_self, h.apart i List.mem_cons_self, ?_⟩
  constructor
  · intro k j hj
    rw [h.markers (k + 1) j hj, Nat.add_assoc, Nat.add_comm 1 k]
  · intro j hj
    exact h.one_line j (List.mem_cons_of_mem i hj)
  · intro j hj
    exact h.apart j (List.mem_cons_of_mem i hj)

structure Placed.Regular (c : ListConfig) (p : Placed) : Prop where
  plain : p.parent = .item → p.node.kind = .list
  list : ∀ l, p.node = .list l → l.Regular c

theorem Item.forall_mem_preorder_cons {P : Placed → Prop} {i : Item} {is : List Item}
    (h : ∀ p ∈ Item.preorder (i :: is), P p) :
    (∀ p ∈ i.descendants, P p) ∧ ∀ p ∈ Item.preorder is, P p := by
  rw [Item.preorder, List.forall_mem_cons, List.forall_mem_append] at h
  exact h.2

theorem Node.forall_mem_preorder_cons {P : Placed → Prop} {parent : NodeKind} {n : Node}
    {ns : List Node} (h : ∀ p ∈ Node.preorder parent (n :: ns), P p) :
    P ⟨parent, n⟩ ∧ (∀ p ∈ n.descendants, P p) ∧ ∀ p ∈ Node.preorder parent ns, P p := by
  rwa [Node.preorder, List.forall_mem_cons, List.forall_mem_append] at h

theorem Node.exists_list_of_regular {c : ListConfig} {n : Node} {ns : List Node}
    (h : ∀ p ∈ Node.preorder .item (n :: ns), p.Regular c) :
    ∃ l, n = .list l ∧ l.Regular c ∧ (∀ p ∈ Item.preorder l.items, p.Regular c) ∧
      ∀ p ∈ Node.preorder .item ns, p.Regular c := by
  obtain ⟨hn, hbelow, hrest⟩ := Node.forall_mem_preorder_cons h
  cases n with
  | list l =>
      obtain ⟨_, _, is⟩ := l
      exact ⟨_, rfl, hn.list _ rfl, hbelow, hrest⟩
  | document _ | heading _ | paragraph _ | item _ | code _ | text _ => cases hn.plain rfl

namespace Render

/-! ## Indentation -/

theorem lt_nestedIndent (c : ListConfig) (indent : Nat) (marker : Text) :
    indent < nestedIndent c indent marker := by
  rw [nestedIndent]
  split <;> omega

mutual

theorem le_indent_of_mem_itemRows {c : ListConfig} {indent : Nat} {is : List Item} {r : Row}
    (hr : r ∈ itemRows c indent is) : indent ≤ r.indent := by
  match is with
  | [] =>
      rw [itemRows] at hr
      cases hr
  | ⟨marker, text, children⟩ :: rest =>
      rw [itemRows, List.mem_cons, List.mem_append] at hr
      rcases hr with rfl | hr | hr
      · exact Nat.le_refl indent
      · have hdeeper := lt_nestedIndent c indent (shownMarker c marker)
        exact Nat.le_trans (Nat.le_of_lt hdeeper) (le_indent_of_mem_childRows hr)
      · exact le_indent_of_mem_itemRows hr
termination_by sizeOf is

theorem le_indent_of_mem_childRows {c : ListConfig} {indent : Nat} {ns : List Node} {r : Row}
    (hr : r ∈ childRows c indent ns) : indent ≤ r.indent := by
  match ns with
  | [] =>
      rw [childRows] at hr
      cases hr
  | .list ⟨_, _, is⟩ :: rest =>
      rw [childRows, List.mem_append] at hr
      rcases hr with hr | hr
      · exact le_indent_of_mem_itemRows hr
      · exact le_indent_of_mem_childRows hr
  | .document _ :: rest | .heading _ :: rest | .paragraph _ :: rest | .item _ :: rest
  | .code _ :: rest | .text _ :: rest =>
      rw [childRows] at hr
      · exact le_indent_of_mem_childRows hr
      · simp
termination_by sizeOf ns

end

/-- The rows of items start with the row of the first. -/
theorem itemRows_cons {c : ListConfig} {indent : Nat} {ordered : Bool} {n : Nat} {i : Item}
    {is : List Item} (h : Item.Regular c ordered n (i :: is)) :
    itemRows c indent (i :: is) =
      ⟨indent, c.itemMarker ordered n, i.text⟩ ::
        (childRows c (nestedIndent c indent (c.itemMarker ordered n)) i.children ++
          itemRows c indent is) := by
  obtain ⟨marker, text, children⟩ := i
  obtain ⟨hmarker, _⟩ := h.of_cons
  change marker = c.itemMarker ordered n at hmarker
  rw [itemRows, hmarker, shownMarker_itemMarker]

theorem childRows_cons (c : ListConfig) (indent : Nat) (l : ItemList) (ns : List Node) :
    childRows c indent (.list l :: ns) = itemRows c indent l.items ++ childRows c indent ns := by
  obtain ⟨_, _, is⟩ := l
  rw [childRows]

theorem exists_itemRows {c : ListConfig} {l : ItemList} (h : l.Regular c) (indent : Nat) :
    ∃ text rest, itemRows c indent l.items =
      ⟨indent, c.itemMarker l.ordered 1, text⟩ :: rest := by
  obtain ⟨i, is, his⟩ := List.exists_cons_of_ne_nil h.items_ne_nil
  have hitems := h.items
  rw [his] at hitems ⊢
  exact ⟨_, _, itemRows_cons hitems⟩

/-- A row among those of the items of one list is deeper than they are or has a marker of their
kind. -/
theorem deeper_or_marked {c : ListConfig} {indent : Nat} {ordered : Bool} {n : Nat}
    {is : List Item} (h : Item.Regular c ordered n is) {r : Row} (hr : r ∈ itemRows c indent is) :
    indent < r.indent ∨ ∃ k, r.marker = c.itemMarker ordered k := by
  induction is generalizing n with
  | nil =>
      rw [itemRows] at hr
      cases hr
  | cons i is ih =>
      obtain ⟨_, _, _, hrest⟩ := h.of_cons
      rw [itemRows_cons h, List.mem_cons, List.mem_append] at hr
      rcases hr with rfl | hr | hr
      · exact .inr ⟨n, rfl⟩
      · have hdeeper := lt_nestedIndent c indent (c.itemMarker ordered n)
        exact .inl (Nat.lt_of_lt_of_le hdeeper (le_indent_of_mem_childRows hr))
      · exact ih hrest hr

theorem indent_of_head?_itemRows {c : ListConfig} {indent : Nat} {is : List Item} {r : Row}
    (hr : (itemRows c indent is).head? = some r) : r.indent = indent := by
  cases is with
  | nil =>
      rw [itemRows] at hr
      cases hr
  | cons i is =>
      obtain ⟨marker, text, children⟩ := i
      rw [itemRows] at hr
      cases hr
      rfl

theorem of_head?_childRows {c : ListConfig} {indent : Nat} {l : ItemList} {ns : List Node}
    (hns : ∀ p ∈ Node.preorder .item ns, p.Regular c)
    (hapart : (Node.list l :: ns).IsChain Node.Apart) {r : Row}
    (hr : (childRows c indent ns).head? = some r) :
    r.indent = indent ∧ ∃ ordered, ordered ≠ l.ordered ∧ r.marker = c.itemMarker ordered 1 := by
  cases ns with
  | nil =>
      rw [childRows] at hr
      cases hr
  | cons n ns =>
      obtain ⟨m, rfl, hm, _⟩ := Node.exists_list_of_regular hns
      obtain ⟨text, rest, hrows⟩ := exists_itemRows hm indent
      rw [childRows_cons, hrows] at hr
      cases hr
      have hkinds : l.ordered ≠ m.ordered := (List.isChain_cons_cons.mp hapart).1 l m rfl rfl
      exact ⟨rfl, m.ordered, hkinds.symm, rfl⟩

/-! ## Lists from rows -/

theorem parts_eq_of_append_eq {α : Type} {p : α → Prop} {as as' bs bs' : List α}
    (has : ∀ a ∈ as, p a) (has' : ∀ a ∈ as', p a) (hbs : ∀ b, bs.head? = some b → ¬p b)
    (hbs' : ∀ b, bs'.head? = some b → ¬p b) (h : as ++ bs = as' ++ bs') :
    as = as' ∧ bs = bs' := by
  induction as generalizing as' with
  | nil =>
      cases as' with
      | nil => exact ⟨rfl, h⟩
      | cons a' as' =>
          rw [List.nil_append] at h
          exact absurd (has' a' List.mem_cons_self) (hbs a' (by rw [h]; rfl))
  | cons a as ih =>
      cases as' with
      | nil =>
          rw [List.nil_append] at h
          exact absurd (has a List.mem_cons_self) (hbs' a (by rw [← h]; rfl))
      | cons a' as' =>
          rw [List.cons_append, List.cons_append, List.cons.injEq] at h
          rw [List.forall_mem_cons] at has has'
          obtain ⟨rfl, hbs⟩ := ih has.2 has'.2 h.2
          exact ⟨by rw [h.1], hbs⟩

mutual

/-- Items of one kind and number are told from their rows. -/
theorem items_eq_of_itemRows_eq {c : ListConfig} {indent : Nat} {ordered : Bool} {n : Nat}
    (is js : List Item) (his : Item.Regular c ordered n is) (hjs : Item.Regular c ordered n js)
    (hbelow : ∀ p ∈ Item.preorder is, p.Regular c) (hbelow' : ∀ p ∈ Item.preorder js, p.Regular c)
    (h : itemRows c indent is = itemRows c indent js) : is = js := by
  match is, js with
  | [], [] => rfl
  | [], j :: js =>
      rw [itemRows_cons hjs, itemRows] at h
      cases h
  | i :: is, [] =>
      rw [itemRows_cons his, itemRows] at h
      cases h
  | ⟨marker, text, ns⟩ :: is, ⟨marker', text', ms⟩ :: js =>
      rw [itemRows_cons his, itemRows_cons hjs, List.cons.injEq, Row.mk.injEq] at h
      obtain ⟨⟨_, _, htext⟩, hrows⟩ := h
      obtain ⟨hmarker, _, hapart, his⟩ := his.of_cons
      obtain ⟨hmarker', _, hapart', hjs⟩ := hjs.of_cons
      obtain ⟨hns, hbelow⟩ := Item.forall_mem_preorder_cons hbelow
      obtain ⟨hms, hbelow'⟩ := Item.forall_mem_preorder_cons hbelow'
      have hdeeper (ks : List Node) :
          ∀ r ∈ childRows c (nestedIndent c indent (c.itemMarker ordered n)) ks,
            indent < r.indent := by
        intro r hr
        exact Nat.lt_of_lt_of_le (lt_nestedIndent c indent _) (le_indent_of_mem_childRows hr)
      have hstop (ks : List Item) :
          ∀ r, (itemRows c indent ks).head? = some r → ¬indent < r.indent := by
        intro r hr
        rw [indent_of_head?_itemRows hr]
        exact Nat.lt_irrefl indent
      obtain ⟨hchildren, hrest⟩ :=
        parts_eq_of_append_eq (hdeeper ns) (hdeeper ms) (hstop is) (hstop js) hrows
      have hitems := items_eq_of_itemRows_eq is js his hjs hbelow hbelow' hrest
      have hnodes := nodes_eq_of_childRows_eq ns ms hapart hapart' hns hms hchildren
      change marker = c.itemMarker ordered n at hmarker
      change marker' = c.itemMarker ordered n at hmarker'
      change text = text' at htext
      rw [hmarker, hmarker', htext, hnodes, hitems]
termination_by sizeOf is

/-- Nested lists are told from their rows. -/
theorem nodes_eq_of_childRows_eq {c : ListConfig} {indent : Nat} (ns ms : List Node)
    (hns : ns.IsChain Node.Apart) (hms : ms.IsChain Node.Apart)
    (hbelow : ∀ p ∈ Node.preorder .item ns, p.Regular c)
    (hbelow' : ∀ p ∈ Node.preorder .item ms, p.Regular c)
    (h : childRows c indent ns = childRows c indent ms) : ns = ms := by
  match ns, ms with
  | [], [] => rfl
  | [], m :: ms =>
      obtain ⟨k, rfl, hk, _⟩ := Node.exists_list_of_regular hbelow'
      obtain ⟨_, _, hrows⟩ := exists_itemRows hk indent
      rw [childRows_cons, hrows, childRows] at h
      cases h
  | n :: ns, [] =>
      obtain ⟨l, rfl, hl, _⟩ := Node.exists_list_of_regular hbelow
      obtain ⟨_, _, hrows⟩ := exists_itemRows hl indent
      rw [childRows_cons, hrows, childRows] at h
      cases h
  | .list ⟨ordered, marker, is⟩ :: ns, .list ⟨ordered', marker', js⟩ :: ms =>
      obtain ⟨l, hl, hlist, his, hrest⟩ := Node.exists_list_of_regular hbelow
      obtain ⟨k, hk, hlist', hjs, hrest'⟩ := Node.exists_list_of_regular hbelow'
      cases hl
      cases hk
      obtain ⟨_, _, hrows⟩ := exists_itemRows hlist indent
      obtain ⟨_, _, hrows'⟩ := exists_itemRows hlist' indent
      have hkind : ordered = ordered' := by
        rw [childRows_cons, childRows_cons, hrows, hrows', List.cons_append, List.cons_append,
          List.cons.injEq, Row.mk.injEq] at h
        exact ListConfig.ordered_eq_of_itemMarker_eq h.1.2.1
      subst hkind
      have hown (ks : List Item) (hks : Item.Regular c ordered 1 ks) :
          ∀ r ∈ itemRows c indent ks, indent < r.indent ∨ ∃ m, r.marker = c.itemMarker ordered m :=
        fun _ => deeper_or_marked hks
      have hstop (mark : Text) (items : List Item) (ks : List Node)
          (hks : ∀ p ∈ Node.preorder .item ks, p.Regular c)
          (hapart : (Node.list ⟨ordered, mark, items⟩ :: ks).IsChain Node.Apart) :
          ∀ r, (childRows c indent ks).head? = some r →
            ¬(indent < r.indent ∨ ∃ m, r.marker = c.itemMarker ordered m) := by
        intro r hr
        obtain ⟨hindent, other, hother, hmarker⟩ := of_head?_childRows hks hapart hr
        rintro (hlt | ⟨m, hm⟩)
        · rw [hindent] at hlt
          exact Nat.lt_irrefl indent hlt
        · rw [hmarker] at hm
          exact hother (ListConfig.ordered_eq_of_itemMarker_eq hm)
      rw [childRows_cons, childRows_cons] at h
      obtain ⟨hfirst, hothers⟩ := parts_eq_of_append_eq (hown is hlist.items)
        (hown js hlist'.items) (hstop marker is ns hrest hns) (hstop marker' js ms hrest' hms) h
      have hitems := items_eq_of_itemRows_eq is js hlist.items hlist'.items his hjs hfirst
      have hnodes := nodes_eq_of_childRows_eq ns ms hns.tail hms.tail hrest hrest' hothers
      have hmarker : marker = marker' := hlist.marker_eq.trans hlist'.marker_eq.symm
      rw [hitems, hnodes, hmarker]
  | .document _ :: _, _ :: _ | .heading _ :: _, _ :: _ | .paragraph _ :: _, _ :: _
  | .item _ :: _, _ :: _ | .code _ :: _, _ :: _ | .text _ :: _, _ :: _ =>
      obtain ⟨l, hl, _⟩ := Node.exists_list_of_regular hbelow
      cases hl
  | .list _ :: _, .document _ :: _ | .list _ :: _, .heading _ :: _
  | .list _ :: _, .paragraph _ :: _ | .list _ :: _, .item _ :: _ | .list _ :: _, .code _ :: _
  | .list _ :: _, .text _ :: _ =>
      obtain ⟨l, hl, _⟩ := Node.exists_list_of_regular hbelow'
      cases hl
termination_by sizeOf ns

end

/-! ## Rendered lists -/

mutual

/-- The rows of regular items have configured markers and one line each. -/
theorem marked_of_mem_itemRows {c : ListConfig} {indent : Nat} {ordered : Bool} {n : Nat}
    {is : List Item} (his : Item.Regular c ordered n is)
    (hbelow : ∀ p ∈ Item.preorder is, p.Regular c) {r : Row} (hr : r ∈ itemRows c indent is) :
    r.Marked c ∧ '\n' ∉ r.text := by
  match is with
  | [] =>
      rw [itemRows] at hr
      cases hr
  | ⟨marker, text, children⟩ :: is =>
      obtain ⟨_, htext, _, hrest⟩ := his.of_cons
      obtain ⟨hchildren, hbelow⟩ := Item.forall_mem_preorder_cons hbelow
      rw [itemRows_cons his, List.mem_cons, List.mem_append] at hr
      rcases hr with rfl | hr | hr
      · exact ⟨⟨ordered, n, rfl⟩, htext⟩
      · exact marked_of_mem_childRows hchildren hr
      · exact marked_of_mem_itemRows hrest hbelow hr
termination_by sizeOf is

theorem marked_of_mem_childRows {c : ListConfig} {indent : Nat} {ns : List Node}
    (hbelow : ∀ p ∈ Node.preorder .item ns, p.Regular c) {r : Row}
    (hr : r ∈ childRows c indent ns) : r.Marked c ∧ '\n' ∉ r.text := by
  match ns with
  | [] =>
      rw [childRows] at hr
      cases hr
  | .list ⟨_, _, is⟩ :: ns =>
      obtain ⟨l, hl, hlist, his, hrest⟩ := Node.exists_list_of_regular hbelow
      cases hl
      rw [childRows, List.mem_append] at hr
      rcases hr with hr | hr
      · exact marked_of_mem_itemRows hlist.items his hr
      · exact marked_of_mem_childRows hrest hr
  | .document _ :: _ | .heading _ :: _ | .paragraph _ :: _ | .item _ :: _ | .code _ :: _
  | .text _ :: _ =>
      obtain ⟨l, hl, _⟩ := Node.exists_list_of_regular hbelow
      cases hl
termination_by sizeOf ns

end

/-- A rendered list shows its rows. -/
theorem shown_render_list {c : Config} {l : ItemList} {t : Text}
    (hl : ∀ p ∈ Node.preorder .item [.list l], p.Regular c.list)
    (h : Document.render c [.list l] = .ok t) :
    Text.shown t = (childRows c.list 0 [.list l]).map Row.line := by
  obtain ⟨b, hbody, rfl⟩ := Document.exists_of_render h
  rw [body, body, node] at hbody
  obtain ⟨first, rest, hfirst, hrest, rfl⟩ := exists_append_of_ok hbody
  cases hrest
  cases hitems : items c.list 0 l.items with
  | error e =>
      rw [hitems] at hfirst
      cases hfirst
  | ok s =>
      rw [hitems] at hfirst
      cases hfirst
      have hrows : s = (childRows c.list 0 [.list l]).flatMap Row.written := by
        rw [childRows_cons, childRows, List.append_nil]
        exact items_eq_rows hitems
      rw [shown_finish, List.append_nil, hrows,
        shown_rows_append (fun r hr => (marked_of_mem_childRows hl hr).1)
          fun r hr => (marked_of_mem_childRows hl hr).2]
      exact List.append_nil _

end Render

theorem Placed.regular_of_render {c : Config} {l : ItemList} {t : Text}
    (hl : ∀ p ∈ Document.preorder [.list l], ∀ k, p.node = .list k → k.Regular c.list)
    (h : Document.render c [.list l] = .ok t) :
    ∀ p ∈ Node.preorder .item [.list l], p.Regular c.list := by
  have hplain := ((Document.exists_render_iff c _).mp ⟨t, h⟩).children
  rw [Document.preorder, Node.preorder, List.forall_mem_cons] at hl
  rw [Document.preorder, Node.preorder, Placed.plainItems_cons] at hplain
  rw [Node.preorder, List.forall_mem_cons]
  refine ⟨⟨fun _ => rfl, hl.1⟩, ?_⟩
  intro p hp
  exact ⟨hplain.2 p hp, hl.2 p hp⟩

/-- Two lists that are rendered alike are the same, if at every depth their lists hold items, their
markers are the configured ones, their texts have one line, and no list stands beside another of
its kind in an item. -/
theorem ItemList.eq_of_render_eq (c : Config) {l m : ItemList} {t : Text}
    (hl : ∀ p ∈ Document.preorder [.list l], ∀ k, p.node = .list k → k.Regular c.list)
    (hm : ∀ p ∈ Document.preorder [.list m], ∀ k, p.node = .list k → k.Regular c.list)
    (hlt : Document.render c [.list l] = .ok t) (hmt : Document.render c [.list m] = .ok t) :
    l = m := by
  have hlregular := Placed.regular_of_render hl hlt
  have hmregular := Placed.regular_of_render hm hmt
  have hlines := Render.shown_render_list hlregular hlt
  rw [Render.shown_render_list hmregular hmt] at hlines
  have hread {k : ItemList} (hk : ∀ p ∈ Node.preorder .item [.list k], p.Regular c.list) :
      ((Render.childRows c.list 0 [.list k]).map Render.Row.line).map Render.Row.read =
        Render.childRows c.list 0 [.list k] := by
    rw [List.map_map]
    refine (List.map_congr_left fun r hr => ?_).trans (List.map_id _)
    exact (Render.marked_of_mem_childRows hk hr).1.read_line
  have hrows := congrArg (List.map Render.Row.read) hlines
  rw [hread hlregular, hread hmregular] at hrows
  have hnodes := Render.nodes_eq_of_childRows_eq [.list l] [.list m] (List.isChain_singleton _)
    (List.isChain_singleton _) hlregular hmregular hrows.symm
  cases hnodes
  rfl

def nestedList : ItemList :=
  ⟨true, ['.'],
    [⟨['1', '.'], ['a'],
        [.list ⟨false, ['-'], [⟨['-'], [], []⟩]⟩, .list ⟨true, ['.'], [⟨['1', '.'], ['-'], []⟩]⟩]⟩,
      ⟨['2', '.'], ['b'], []⟩]⟩

theorem regular_nestedList :
    ∀ p ∈ Document.preorder [.list nestedList], ∀ k, p.node = .list k → k.Regular {} := by
  have hbullet : ItemList.Regular {} ⟨false, ['-'], [⟨['-'], [], []⟩]⟩ := by
    refine ⟨rfl, by simp, ⟨?_, by simp, by simp⟩⟩
    rintro (_ | k) i hi
    · cases hi
      rfl
    · cases hi
  have hnumber : ItemList.Regular {} ⟨true, ['.'], [⟨['1', '.'], ['-'], []⟩]⟩ := by
    refine ⟨rfl, by simp, ⟨?_, by simp, by simp⟩⟩
    rintro (_ | k) i hi
    · cases hi
      decide
    · cases hi
  have hwhole : ItemList.Regular {} nestedList := by
    refine ⟨rfl, by simp [nestedList], ⟨?_, by simp [nestedList], by simp [nestedList, Node.Apart]⟩⟩
    rintro (_ | _ | k) i hi
    · cases hi
      decide
    · cases hi
      decide
    · cases hi
  intro p hp k hk
  rw [show Document.preorder [.list nestedList] = [_, _, _, _, _, _, _] from rfl] at hp
  simp only [List.mem_cons, List.not_mem_nil, or_false] at hp
  rcases hp with rfl | rfl | rfl | rfl | rfl | rfl | rfl
  all_goals cases hk
  · exact hwhole
  · exact hbullet
  · exact hnumber

/-- A tidied list and one that is written alike. -/
theorem ItemList.eq_of_render_eq_nested :
    ∃ l t, ItemList.tidy {} ⟨true, [')'],
        [⟨['7', ')'], [' ', 'a'],
            [.list ⟨false, ['+'], [⟨['+'], [], []⟩]⟩,
              .list ⟨true, [')'], [⟨['3', ')'], ['-'], []⟩]⟩]⟩,
          ⟨['7', ')'], ['b', ' '], []⟩]⟩ = .ok l ∧
      Document.render {} [.list l] = .ok t ∧ Document.render {} [.list nestedList] = .ok t ∧
        l = nestedList := by
  have hrender : Document.render {} [.list nestedList] = .ok "1. a\n   -\n   1. -\n2. b\n".toList :=
    ok_of_toOption (by decide +kernel)
  refine ⟨nestedList, _, ?_, hrender, hrender, ?_⟩
  · have hone : ListConfig.itemMarker {} true 1 = ['1', '.'] := by decide +kernel
    have htwo : ListConfig.itemMarker {} true 2 = ['2', '.'] := by decide +kernel
    have ha : Text.collapseBlanks (Text.trim [' ', 'a']) = ['a'] := by decide +kernel
    have hb : Text.collapseBlanks (Text.trim ['b', ' ']) = ['b'] := by decide +kernel
    have hdash : Text.collapseBlanks (Text.trim ['-']) = ['-'] := by decide +kernel
    have hempty : Text.collapseBlanks (Text.trim []) = [] := by decide +kernel
    simp only [ItemList.tidy, Item.tidyAll, Node.tidyChildren, hone, htwo, ha, hb, hdash, hempty]
    rfl
  · exact ItemList.eq_of_render_eq {} regular_nestedList regular_nestedList hrender hrender

end Tidymark
