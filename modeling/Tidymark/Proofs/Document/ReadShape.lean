import Tidymark.Document.Reading
import Tidymark.Proofs.Markdown.HeadingLevels
import Tidymark.Proofs.Render.Renderable

/-!
# The shape of documents that are read

A source is read as a document that can be rendered: no document stands in it,
at every depth items hold lists only, and its headings have levels from 1
to 6.  No item is a root of it.  Each block that is put in front of such a
document leaves it so.
-/

namespace Tidymark

open Markdown

theorem Item.preorder_append (is js : List Item) :
    Item.preorder (is ++ js) = Item.preorder is ++ Item.preorder js := by
  induction is with
  | nil => rfl
  | cons i rest ih => rw [List.cons_append, Item.preorder, Item.preorder, ih, List.cons_append,
      List.append_assoc]

/-! ## Lists -/

/-- A list in front of nodes joins a list of its kind, or else stands there itself. -/
theorem Node.consList_cases (l : ItemList) (ns : List Node) :
    Node.consList l ns = .list l :: ns ∨
      ∃ next rest, ns = .list next :: rest ∧ l.ordered = next.ordered ∧
        Node.consList l ns = .list { l with items := l.items ++ next.items } :: rest := by
  cases ns with
  | nil => exact .inl rfl
  | cons n rest =>
      cases n with
      | list next =>
          rw [consList]
          split
          · next hordered => exact .inr ⟨next, rest, rfl, hordered, rfl⟩
          · exact .inl rfl
      | document _ | heading _ | paragraph _ | item _ | code _ | text _ => exact .inl rfl

theorem ItemList.forall_descendants_joined {Q : Placed → Prop} {l next : ItemList}
    (hl : ∀ p ∈ l.descendants, Q p) (hnext : ∀ p ∈ next.descendants, Q p) :
    ∀ p ∈ ({ l with items := l.items ++ next.items } : ItemList).descendants, Q p := by
  obtain ⟨_, _, items⟩ := l
  obtain ⟨_, _, nextItems⟩ := next
  rw [ItemList.descendants, Item.preorder_append]
  exact List.forall_mem_append.mpr ⟨hl, hnext⟩

theorem Node.forall_preorder_consList {Q : Placed → Prop} {parent : NodeKind}
    (hlist : ∀ l, Q ⟨parent, .list l⟩) {l : ItemList} {ns : List Node}
    (hl : ∀ p ∈ l.descendants, Q p) (hns : ∀ p ∈ Node.preorder parent ns, Q p) :
    ∀ p ∈ Node.preorder parent (Node.consList l ns), Q p := by
  rcases Node.consList_cases l ns with heq | ⟨next, rest, rfl, _, heq⟩
  · rw [heq, Node.forall_preorder_cons]
    exact ⟨hlist l, hl, hns⟩
  · obtain ⟨_, hnext, hrest⟩ := Node.forall_preorder_cons.mp hns
    rw [heq, Node.forall_preorder_cons]
    exact ⟨hlist _, ItemList.forall_descendants_joined hl hnext, hrest⟩

theorem Node.forall_preorder_foldr_consList {Q : Placed → Prop} {parent : NodeKind}
    (hlist : ∀ l, Q ⟨parent, .list l⟩) {ls : List ItemList}
    (hls : ∀ l ∈ ls, ∀ p ∈ l.descendants, Q p) :
    ∀ p ∈ Node.preorder parent (ls.foldr Node.consList []), Q p := by
  induction ls with
  | nil => exact fun p hp => by cases hp
  | cons l ls ih =>
      rw [List.forall_mem_cons] at hls
      exact Node.forall_preorder_consList hlist hls.1 (ih hls.2)

namespace Reading

@[simp] theorem Draft.nested_settle (source : Text) (d : Draft) :
    (d.settle source).nested = d.nested := by
  rw [Draft.settle]
  split <;> rfl

theorem Draft.nested_addRun {d d' : Draft} {span : Span} (h : d.addRun span = some d') :
    d'.nested = d.nested := by
  rw [Draft.addRun] at h
  split at h
  · cases h
  · cases h
    rfl

theorem Draft.nested_addParagraph {d d' : Draft} {text : Text}
    (h : d.addParagraph text = some d') : d'.nested = d.nested := by
  rw [Draft.addParagraph] at h
  split at h
  · cases h
  · cases h
    rfl

@[simp] theorem Draft.nested_addList (source : Text) (d : Draft) (l : ItemList) :
    (d.addList source l).nested = d.nested ++ [l] := by
  rw [Draft.addList]
  simp only [Draft.nested_settle]

theorem forall_preorder_of_items? {source : Text} {Q : Placed → Prop}
    (hlist : ∀ l, Q ⟨.item, .list l⟩)
    (hitem : ∀ span d, Q ⟨.list, .item (Draft.item source span d)⟩) {events : List Event}
    {is : List Item} (h : items? source events = some is) : ∀ p ∈ Item.preorder is, Q p := by
  suffices hboth :
      (∀ events is, items? source events = some is → ∀ p ∈ Item.preorder is, Q p) ∧
        ∀ d events d', draft? source d events = some d' →
          (∀ l ∈ d.nested, ∀ p ∈ l.descendants, Q p) →
            ∀ l ∈ d'.nested, ∀ p ∈ l.descendants, Q p from
    hboth.1 events is h
  refine items?.mutual_induct source _ _ ?nil ?item ?other ?done ?list ?paragraph ?inline ?block
    ?bare ?stop
  case nil =>
    intro is h
    rw [items?] at h
    cases h
    exact fun p hp => by cases hp
  case item =>
    intro span rest n hdraft hrest is h
    rw [items?] at h
    obtain ⟨draft, hd, h⟩ := Option.bind_eq_some_iff.mp h
    obtain ⟨is, his, h⟩ := Option.bind_eq_some_iff.mp h
    cases h
    have hnested := hdraft draft hd (fun l hl => by cases hl)
    exact Item.forall_preorder_cons.mpr
      ⟨hitem span draft, Node.forall_preorder_foldr_consList hlist hnested, hrest is his⟩
  case other =>
    intro head tail hhead is h
    rw [items?] at h
    · cases h
    · exact hhead
  case done =>
    intro d d' h hd
    rw [draft?] at h
    cases h
    exact hd
  case list =>
    intro d ordered span rest n hitems hrest d' h hd
    rw [draft?] at h
    obtain ⟨is, his, h⟩ := Option.bind_eq_some_iff.mp h
    refine hrest is d' h ?_
    rw [Draft.nested_addList, List.forall_mem_append, List.forall_mem_singleton]
    exact ⟨hd, hitems is his⟩
  case paragraph =>
    intro d span rest n hrest d' h hd
    rw [draft?] at h
    obtain ⟨e, he, h⟩ := Option.bind_eq_some_iff.mp h
    refine hrest e d' h ?_
    rwa [Draft.nested_addParagraph he]
  case inline =>
    intro d tag span rest hlist hparagraph htag hrest d' h hd
    rw [draft?, if_pos htag] at h
    · obtain ⟨e, he, h⟩ := Option.bind_eq_some_iff.mp h
      refine hrest e d' h ?_
      rwa [Draft.nested_addRun he]
    · exact hlist
    · exact hparagraph
  case block =>
    intro d tag span rest hlist hparagraph htag d' h
    rw [draft?, if_neg htag] at h
    · cases h
    · exact hlist
    · exact hparagraph
  case bare =>
    intro d what span rest hrest d' h hd
    rw [draft?] at h
    obtain ⟨e, he, h⟩ := Option.bind_eq_some_iff.mp h
    refine hrest e d' h ?_
    rwa [Draft.nested_addRun he]
  case stop =>
    intro d tail d' h
    rw [draft?] at h
    cases h

theorem forall_descendants_of_list? {source : Text} {Q : Placed → Prop}
    (hlist : ∀ l, Q ⟨.item, .list l⟩)
    (hitem : ∀ span d, Q ⟨.list, .item (Draft.item source span d)⟩) {ordered : Bool}
    {events : List Event} {l : ItemList} (h : list? source ordered events = some l) :
    ∀ p ∈ l.descendants, Q p := by
  obtain ⟨is, his, rfl⟩ := Option.map_eq_some_iff.mp h
  exact forall_preorder_of_items? hlist hitem his

/-- In a plain list items hold lists only. -/
theorem plainItems_list? {source : Text} {ordered : Bool} {events : List Event} {l : ItemList}
    (h : list? source ordered events = some l) : Placed.PlainItems l.descendants :=
  forall_descendants_of_list? (fun _ _ => rfl) (fun _ _ hparent => by cases hparent) h

/-! ## One block -/

/-- A node that a block becomes if it is not read as a list.  Only headings become headings, with
their level and their text collapsed. -/
structure LeafOf (source : Text) (b : Block) (n : Node) : Prop where
  kind_mem : n.kind ∈ [NodeKind.heading, .paragraph, .code, .text]
  heading : ∀ h, n = .heading h → ∃ span inline, b = .heading span h.level inline ∧
    h.text = Text.headingText (Text.inlineSlice source inline)

namespace LeafOf

variable {source : Text} {b : Block} {n : Node}

theorem kind_ne (h : LeafOf source b n) {k : NodeKind}
    (hk : k ∉ [NodeKind.heading, .paragraph, .code, .text]) : n.kind ≠ k :=
  fun heq => hk (heq ▸ h.kind_mem)

theorem descendants_eq_nil (h : LeafOf source b n) : n.descendants = [] := by
  cases n with
  | document _ => exact absurd rfl (h.kind_ne (k := .document) (by decide))
  | list _ => exact absurd rfl (h.kind_ne (k := .list) (by decide))
  | item _ => exact absurd rfl (h.kind_ne (k := .item) (by decide))
  | heading _ | paragraph _ | code _ | text _ => rfl

theorem leveled (h : LeafOf source b n) (hb : b.Leveled) : n.Leveled := by
  cases n with
  | heading heading =>
      obtain ⟨span, inline, rfl, _⟩ := h.heading heading rfl
      exact hb
  | document _ | list _ | item _ | paragraph _ | code _ | text _ => trivial

end LeafOf

/-- A list that is read joins the nodes behind it, and every other block stands in front of
them. -/
theorem consBlock_cases (source : Text) (b : Block) :
    (∃ l plain, b = .list l ∧ list? source l.ordered l.events = some plain ∧
      ∀ ns, consBlock source b ns = Node.consList plain ns) ∨
      ∃ n, LeafOf source b n ∧ ∀ ns, consBlock source b ns = n :: ns := by
  have hleaf {n : Node} (hkind : n.kind ∈ [NodeKind.paragraph, .code, .text])
      (hcons : ∀ ns, consBlock source b ns = n :: ns) :
      ∃ n, LeafOf source b n ∧ ∀ ns, consBlock source b ns = n :: ns := by
    refine ⟨n, ⟨List.mem_cons_of_mem _ hkind, ?_⟩, hcons⟩
    rintro h rfl
    simp [Node.kind] at hkind
  cases b with
  | heading span level inline =>
      refine .inr ⟨.heading ⟨level, Text.headingText (Text.inlineSlice source inline),
        headingStyleOf source span⟩, ⟨List.mem_cons_self, ?_⟩, fun _ => rfl⟩
      rintro h ⟨⟩
      exact ⟨span, inline, rfl, rfl⟩
  | paragraph span inline => exact .inr (hleaf (by simp [Node.kind]) fun _ => rfl)
  | code span info content =>
      cases info with
      | none | some _ => exact .inr (hleaf (by simp [Node.kind]) fun _ => rfl)
  | list l =>
      cases hread : list? source l.ordered l.events with
      | some plain => exact .inl ⟨l, plain, rfl, hread, fun ns => by rw [consBlock, hread]⟩
      | none =>
          have hcons (ns : List Node) :
              consBlock source (.list l) ns = opaqueNode source l.span :: ns := by
            rw [consBlock, hread]
          exact .inr (hleaf (by simp [opaqueNode, Node.kind]) hcons)
  | thematicBreak _ | taskMark _ | other _ =>
      exact .inr (hleaf (by simp [opaqueNode, Node.kind]) fun _ => rfl)

/-! ## Whole documents -/

theorem renderable_consList {l : ItemList} {d : Document} (hl : Placed.PlainItems l.descendants)
    (hd : d.Renderable) : Document.Renderable (Node.consList l d) := by
  rcases Node.consList_cases l d with heq | ⟨next, rest, rfl, _, heq⟩
  · rw [heq]
    exact hd.consItems hl
  · obtain ⟨⟨_, hnext, _⟩, hrest⟩ := Document.renderable_cons.mp hd
    rw [heq]
    exact hrest.consItems (ItemList.forall_descendants_joined hl hnext)

theorem renderable_consBlock (source : Text) {b : Block} {d : Document} (hb : b.Leveled)
    (hd : d.Renderable) : Document.Renderable (consBlock source b d) := by
  rcases consBlock_cases source b with ⟨l, plain, _, hplain, heq⟩ | ⟨n, hn, heq⟩
  · rw [heq]
    exact renderable_consList (plainItems_list? hplain) hd
  · rw [heq]
    exact hd.consLeaf (hn.kind_ne (by decide)) hn.descendants_eq_nil (hn.leveled hb)

theorem renderable_definitionNodes (source : Text) (blocks : List Block)
    (definitions : List Definition) :
    Document.Renderable (definitionNodes source blocks definitions) := by
  rw [definitionNodes]
  split
  · exact Document.renderable_nil
  · exact Document.renderable_nil.consLeaf (by simp [Node.kind]) rfl trivial

theorem renderable_consBlocks (source : Text) {blocks : List Block} {d : Document}
    (hblocks : ∀ b ∈ blocks, b.Leveled) (hd : d.Renderable) :
    Document.Renderable (blocks.foldr (consBlock source) d) := by
  induction blocks with
  | nil => exact hd
  | cons b rest ih =>
      rw [List.forall_mem_cons] at hblocks
      exact renderable_consBlock source hblocks.1 (ih hblocks.2)

/-! ## Roots -/

theorem kind_ne_item_consList (l : ItemList) {d : Document} (hd : ∀ n ∈ d, n.kind ≠ .item) :
    ∀ n ∈ Node.consList l d, n.kind ≠ .item := by
  rcases Node.consList_cases l d with heq | ⟨next, rest, rfl, _, heq⟩
  · rw [heq, List.forall_mem_cons]
    exact ⟨by simp [Node.kind], hd⟩
  · rw [List.forall_mem_cons] at hd
    rw [heq, List.forall_mem_cons]
    exact ⟨by simp [Node.kind], hd.2⟩

theorem kind_ne_item_consBlock (source : Text) (b : Block) {d : Document}
    (hd : ∀ n ∈ d, n.kind ≠ .item) : ∀ n ∈ consBlock source b d, n.kind ≠ .item := by
  rcases consBlock_cases source b with ⟨l, plain, _, _, heq⟩ | ⟨n, hn, heq⟩
  · rw [heq]
    exact kind_ne_item_consList plain hd
  · rw [heq, List.forall_mem_cons]
    exact ⟨hn.kind_ne (by decide), hd⟩

theorem kind_ne_item_definitionNodes (source : Text) (blocks : List Block)
    (definitions : List Definition) :
    ∀ n ∈ definitionNodes source blocks definitions, n.kind ≠ .item := by
  rw [definitionNodes]
  split
  · simp
  · simp [Node.kind]

end Reading

/-- Every source is read as a document that can be rendered. -/
theorem Document.renderable_read (source : Text) : (Document.read source).Renderable :=
  Reading.renderable_consBlocks source (Source.leveled_read source)
    (Reading.renderable_definitionNodes source _ _)

/-- No root of a document that is read is an item. -/
theorem Document.kind_ne_item_read (source : Text) :
    ∀ n ∈ Document.read source, n.kind ≠ .item := by
  have hblocks (definitions : List Definition) (own blocks : List Block) :
      ∀ n ∈ blocks.foldr (Reading.consBlock source)
        (Reading.definitionNodes source own definitions), n.kind ≠ .item := by
    induction blocks with
    | nil => exact Reading.kind_ne_item_definitionNodes source own definitions
    | cons b blocks ih => exact Reading.kind_ne_item_consBlock source b ih
  exact hblocks _ _ _

end Tidymark
