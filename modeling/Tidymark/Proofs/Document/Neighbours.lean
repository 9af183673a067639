import Tidymark.Proofs.Document.PlainLists
import Tidymark.Proofs.Document.ReadShape
import Tidymark.Proofs.Text.Runs

/-!
# Neighbouring lists

Lists of one kind that stand one behind the other in a source become one list
of all their items, in a document as in an item.  So no two lists of one kind
are neighbours in what is read.
-/

namespace Tidymark

open Markdown

/-! ## Joining lists -/

namespace Node

def alike : Node → Node → Bool
  | .list l, .list next => l.ordered == next.ordered
  | _, _ => false

def items : Node → List Item
  | .list l => l.items
  | _ => []

/-- Lists of one kind as one list, which is marked as the first of them. -/
def joinRun : List Node → List Node
  | .list l :: rest => [.list { l with items := l.items ++ rest.flatMap items }]
  | ns => ns

/-- The nodes with each run of lists of one kind made one list. -/
def joinLists (ns : List Node) : List Node := (ns.splitBy alike).flatMap joinRun

@[simp] theorem joinRun_singleton (n : Node) : joinRun [n] = [n] := by
  cases n with
  | list l =>
      obtain ⟨ordered, marker, items⟩ := l
      rw [joinRun, List.flatMap_nil, List.append_nil]
  | document _ | heading _ | paragraph _ | item _ | code _ | text _ => rfl

@[simp] theorem joinLists_singleton (n : Node) : joinLists [n] = [n] :=
  (List.append_nil _).trans (joinRun_singleton n)

/-- A node that is no list stays in front of the others. -/
theorem joinLists_cons {n : Node} (hn : n.kind ≠ .list) (ns : List Node) :
    joinLists (n :: ns) = n :: joinLists ns := by
  cases ns with
  | nil => exact joinLists_singleton n
  | cons m ns =>
      have halike : n.alike m = false := by
        cases n with
        | list _ => exact absurd rfl hn
        | document _ | heading _ | paragraph _ | item _ | code _ | text _ => rfl
      rw [joinLists, splitBy_cons_of_not_rel halike, List.flatMap_cons, joinRun_singleton]
      rfl

/-- A list joins the run of lists behind it. -/
theorem joinLists_cons_list (l : ItemList) (ns : List Node) :
    joinLists (.list l :: ns) = consList l (joinLists ns) := by
  cases ns with
  | nil => exact joinLists_singleton _
  | cons n ns =>
      obtain ⟨run, runs, hsplit⟩ := exists_splitBy_cons alike n ns
      have hjoined : joinLists (n :: ns) = joinRun (n :: run) ++ runs.flatMap joinRun := by
        rw [joinLists, hsplit, List.flatMap_cons]
      cases halike : alike (.list l) n with
      | true =>
          rw [joinLists, splitBy_cons_of_rel halike hsplit, hjoined]
          cases n with
          | list next =>
              simp only [alike, beq_iff_eq] at halike
              simp [joinRun, consList, items, halike]
          | document _ | heading _ | paragraph _ | item _ | code _ | text _ => cases halike
      | false =>
          rw [joinLists, splitBy_cons_of_not_rel halike, List.flatMap_cons, joinRun_singleton,
            ← joinLists, hjoined]
          cases n with
          | list next =>
              simp only [alike, beq_eq_false_iff_ne] at halike
              simp [joinRun, consList, halike]
          | document _ | heading _ | paragraph _ | item _ | code _ | text _ => rfl

theorem joinLists_map_list (ls : List ItemList) :
    joinLists (ls.map .list) = ls.foldr consList [] := by
  induction ls with
  | nil => rfl
  | cons l ls ih => rw [List.map_cons, joinLists_cons_list, ih, List.foldr_cons]

/-- No neighbours are lists of one kind. -/
def Unlike (ns : List Node) : Prop := ns.IsChain fun n m => n.alike m = false

theorem unlike_consList (l : ItemList) {ns : List Node} (h : Unlike ns) :
    Unlike (consList l ns) := by
  cases ns with
  | nil => exact List.isChain_singleton _
  | cons n ns =>
      cases n with
      | list next =>
          rw [consList]
          split
          · next hordered =>
              rw [Unlike, List.isChain_cons] at h ⊢
              refine ⟨fun m hm => ?_, h.2⟩
              rw [← h.1 m hm]
              cases m <;> simp [alike, hordered]
          · next hordered =>
              exact List.isChain_cons_cons.mpr ⟨by simpa [alike] using hordered, h⟩
      | document _ | heading _ | paragraph _ | item _ | code _ | text _ =>
          exact List.isChain_cons_cons.mpr ⟨rfl, h⟩

theorem unlike_cons {n : Node} (hn : n.kind ≠ .list) {ns : List Node} (h : Unlike ns) :
    Unlike (n :: ns) := by
  refine List.isChain_cons.mpr ⟨fun m _ => ?_, h⟩
  cases n with
  | list _ => exact absurd rfl hn
  | document _ | heading _ | paragraph _ | item _ | code _ | text _ => rfl

theorem unlike_joinLists (ns : List Node) : Unlike (joinLists ns) := by
  induction ns with
  | nil => exact List.isChain_nil
  | cons n ns ih =>
      cases n with
      | list l =>
          rw [joinLists_cons_list]
          exact unlike_consList l ih
      | document _ | heading _ | paragraph _ | item _ | code _ | text _ =>
          rw [joinLists_cons (by simp [kind])]
          exact unlike_cons (by simp [kind]) ih

end Node

namespace Reading

variable {source : Text}

/-! ## Whole documents -/

/-- The nodes of blocks, each block as if it stood alone. -/
def nodesAlone (source : Text) (blocks : List Block) : List Node :=
  blocks.flatMap fun b => consBlock source b []

theorem joinLists_consBlock (source : Text) (b : Block) (ns : List Node) :
    Node.joinLists (consBlock source b [] ++ ns) = consBlock source b (Node.joinLists ns) := by
  rcases consBlock_cases source b with ⟨l, plain, _, _, heq⟩ | ⟨n, hn, heq⟩
  · rw [heq, heq]
    exact Node.joinLists_cons_list plain ns
  · rw [heq, heq]
    exact Node.joinLists_cons (hn.kind_ne (by decide)) ns

theorem joinLists_nodesAlone (source : Text) (blocks : List Block) (ns : List Node) :
    Node.joinLists (nodesAlone source blocks ++ ns) =
      blocks.foldr (consBlock source) (Node.joinLists ns) := by
  induction blocks with
  | nil => rfl
  | cons b blocks ih =>
      rw [nodesAlone, List.flatMap_cons, List.append_assoc, joinLists_consBlock, ← nodesAlone, ih,
        List.foldr_cons]

theorem joinLists_definitionNodes (source : Text) (blocks : List Block)
    (definitions : List Definition) :
    Node.joinLists (definitionNodes source blocks definitions) =
      definitionNodes source blocks definitions := by
  rw [definitionNodes]
  split
  · rfl
  · exact Node.joinLists_singleton _

/-- What holds of every root that is no item, of nested lists and of every item that a draft
becomes holds everywhere in a document that is read. -/
theorem forall_preorder_read {Q : Placed → Prop}
    (hroot : ∀ n, n.kind ≠ .item → Q ⟨.document, n⟩) (hlist : ∀ l, Q ⟨.item, .list l⟩)
    (hitem : ∀ span d, Q ⟨.list, .item (Draft.item source span d)⟩) :
    ∀ p ∈ (Document.read source).preorder, Q p := by
  have hblock (b : Block) {ns : List Node} (hns : ∀ p ∈ Node.preorder .document ns, Q p) :
      ∀ p ∈ Node.preorder .document (consBlock source b ns), Q p := by
    rcases consBlock_cases source b with ⟨l, plain, _, hplain, heq⟩ | ⟨n, hn, heq⟩
    · rw [heq]
      exact Node.forall_preorder_consList (fun l => hroot (.list l) (by simp [Node.kind]))
        (forall_descendants_of_list? hlist hitem hplain) hns
    · rw [heq, Node.forall_preorder_cons, hn.descendants_eq_nil]
      exact ⟨hroot n (hn.kind_ne (by decide)), List.forall_mem_nil Q, hns⟩
  have hdefinitions : ∀ p ∈ Node.preorder .document (definitionNodes source
      (Source.read source).blocks (Source.read source).definitions), Q p := by
    rw [definitionNodes]
    split
    · exact List.forall_mem_nil Q
    · rw [Node.forall_preorder_cons]
      exact ⟨hroot _ (by simp [Node.kind]), List.forall_mem_nil Q, List.forall_mem_nil Q⟩
  rw [Document.read, Document.preorder]
  generalize definitionNodes source _ _ = definitions at hdefinitions ⊢
  induction (Source.read source).blocks with
  | nil => exact hdefinitions
  | cons b blocks ih => exact hblock b ih

/-! ## Items -/

/-- The children of an item are the lists that stand in it, each read by itself, and joined.
Nothing but lists stands behind the first of them. -/
def JoinsNested (source : Text) (b : BlockItem) (i : Item) : Prop :=
  ∃ (front : List Block) (nested : List BlockList) (plain : List ItemList),
    b.children = front ++ nested.map .list ∧ (∀ c ∈ front, ∀ l, c ≠ .list l) ∧
      List.Forall₂ (fun l p => list? source l.ordered l.events = some p) nested plain ∧
        i.children = Node.joinLists (plain.map .list)

theorem Draft.not_settled_of_addRun {d e : Draft} {span : Span} (h : d.addRun span = some e) :
    ¬d.Settled := by
  intro hd
  rw [Draft.addRun_of_settled hd] at h
  cases h

theorem exists_draft?_of_leaf {tight : Bool} {c : Block} (hc : ∀ l, c ≠ .list l)
    {rest : List Event} {d e : Draft} (h : draft? source d (c.events tight ++ rest) = some e) :
    ∃ d', draft? source d' rest = some e ∧ d'.nested = d.nested ∧ ¬d.Settled := by
  have hbare {what : Bare} {span : Span} (h : draft? source d (.bare what span :: rest) = some e) :
      ∃ d', draft? source d' rest = some e ∧ d'.nested = d.nested ∧ ¬d.Settled := by
    rw [draft?_bare] at h
    obtain ⟨d', hadd, h⟩ := Option.bind_eq_some_iff.mp h
    exact ⟨d', h, Draft.nested_addRun hadd, Draft.not_settled_of_addRun hadd⟩
  cases c with
  | list l => exact absurd rfl (hc l)
  | paragraph span inline =>
      cases tight with
      | true => exact hbare h
      | false =>
          have hinside : Balanced [.bare .text inline] := .bare _ inline .nil
          rw [Block.events, if_neg Bool.false_ne_true] at h
          have h := (draft?_paragraph hinside d span).symm.trans h
          obtain ⟨d', hadd, h⟩ := Option.bind_eq_some_iff.mp h
          exact ⟨d', h, Draft.nested_addParagraph hadd, (Draft.settled_addParagraph hadd).1⟩
  | thematicBreak span | taskMark span => exact hbare h
  | heading _ _ _ | code _ _ _ | other _ =>
      rw [Block.events, List.cons_append, draft?_block rfl (by rintro ⟨⟩) (by rintro _ ⟨⟩)] at h
      cases h

theorem exists_nested_of_draft? {tight : Bool} {children : List Block} {d e : Draft}
    (h : draft? source d (Block.eventsAll tight children) = some e) :
    ∃ (front : List Block) (nested : List BlockList) (plain : List ItemList),
      children = front ++ nested.map .list ∧ (∀ c ∈ front, ∀ l, c ≠ .list l) ∧
        List.Forall₂ (fun l p => list? source l.ordered l.events = some p) nested plain ∧
          e.nested = d.nested ++ plain ∧ (d.Settled → front = []) := by
  induction children generalizing d with
  | nil =>
      rw [Block.eventsAll, draft?] at h
      cases h
      exact ⟨[], [], [], rfl, List.forall_mem_nil _, .nil, (List.append_nil _).symm, fun _ => rfl⟩
  | cons c children ih =>
      rw [Block.eventsAll] at h
      by_cases hc : ∀ l, c ≠ .list l
      · obtain ⟨d', h, hnested, hsettled⟩ := exists_draft?_of_leaf hc h
        obtain ⟨front, nested, plain, rfl, hfront, hplain, he, _⟩ := ih h
        refine ⟨c :: front, nested, plain, rfl, ?_, hplain, ?_, fun hd => absurd hd hsettled⟩
        · exact List.forall_mem_cons.mpr ⟨hc, hfront⟩
        · rw [he, hnested]
      · simp only [ne_eq, not_forall, Classical.not_not] at hc
        obtain ⟨l, rfl⟩ := hc
        obtain ⟨span, ordered, tight', items⟩ := l
        have hinside := BlockItem.balanced_eventsAll span.stop tight' items
        rw [Block.events, List.cons_append, List.append_assoc, List.singleton_append,
          draft?_list hinside] at h
        obtain ⟨is, his, h⟩ := Option.bind_eq_some_iff.mp h
        obtain ⟨front, nested, plain, rfl, hfront, hplain, he, hempty⟩ := ih h
        obtain rfl := hempty (d.settled_addList source _)
        refine ⟨[], ⟨span, ordered, tight', items⟩ :: nested, listOf ordered is :: plain, rfl,
          hfront, .cons ?_ hplain, ?_, fun _ => rfl⟩
        · exact Option.map_eq_some_iff.mpr ⟨is, his, rfl⟩
        · rw [he, Draft.nested_addList, List.append_assoc, List.singleton_append]

theorem forall₂_joinsNested_of_items? {stop : Nat} {tight : Bool} {items : List BlockItem}
    {is : List Item} (h : items? source (BlockItem.eventsAll stop tight items) = some is) :
    List.Forall₂ (JoinsNested source) items is := by
  induction items generalizing is with
  | nil =>
      rw [BlockItem.eventsAll, items?] at h
      cases h
      exact .nil
  | cons b items ih =>
      obtain ⟨start, children⟩ := b
      rw [BlockItem.eventsAll, items?_item (Block.balanced_eventsAll tight children)] at h
      obtain ⟨d, hd, h⟩ := Option.bind_eq_some_iff.mp h
      obtain ⟨is, his, rfl⟩ := Option.map_eq_some_iff.mp h
      obtain ⟨front, nested, plain, hchildren, hfront, hplain, hnested, _⟩ :=
        exists_nested_of_draft? hd
      refine .cons ⟨front, nested, plain, hchildren, hfront, hplain, ?_⟩ (ih his)
      rw [Draft.item, hnested, Node.joinLists_map_list]
      rfl

/-- Each run of neighbouring lists of one kind in a source is one list of the document: it holds
the items of all of them, in their order.  It is the same with the lists in an item, and nowhere
in the document are two lists of one kind neighbours. -/
theorem neighbouring_lists_joined (source : Text) :
    Document.read source = Node.joinLists (nodesAlone source (Source.read source).blocks ++
        definitionNodes source (Source.read source).blocks (Source.read source).definitions) ∧
      (∀ l plain, list? source l.ordered l.events = some plain →
        nodesAlone source [.list l] = [.list plain] ∧ plain.ordered = l.ordered ∧
          List.Forall₂ (JoinsNested source) l.items plain.items) ∧
      Node.Unlike (Document.read source) ∧
      ∀ p ∈ (Document.read source).preorder, ∀ i, p.node = .item i → Node.Unlike i.children := by
  have hread : Document.read source =
      Node.joinLists (nodesAlone source (Source.read source).blocks ++
        definitionNodes source (Source.read source).blocks (Source.read source).definitions) := by
    rw [joinLists_nodesAlone, joinLists_definitionNodes]
    rfl
  refine ⟨hread, fun l plain hplain => ⟨?_, ?_, ?_⟩, ?_, ?_⟩
  · rw [nodesAlone, List.flatMap_singleton, consBlock, hplain]
    rfl
  · obtain ⟨is, _, rfl⟩ := Option.map_eq_some_iff.mp hplain
    rfl
  · obtain ⟨is, his, rfl⟩ := Option.map_eq_some_iff.mp hplain
    exact forall₂_joinsNested_of_items? his
  · rw [hread]
    exact Node.unlike_joinLists _
  · refine forall_preorder_read ?_ ?_ ?_
    · rintro n hn i rfl
      exact absurd rfl hn
    · rintro l i ⟨⟩
    · rintro span d i ⟨⟩
      rw [Draft.item, ← Node.joinLists_map_list]
      exact Node.unlike_joinLists _

/-- Two lists in an item, and two lists one behind the other. -/
theorem neighbouring_lists_joined_bullets : ∃ (l next : BlockList) (plain : ItemList),
    (Source.read "* a\n  + b\n  - c\n- d\n".toList).blocks = [.list l, .list next] ∧
      list? "* a\n  + b\n  - c\n- d\n".toList l.ordered l.events = some plain ∧
      List.Forall₂ (JoinsNested "* a\n  + b\n  - c\n- d\n".toList) l.items plain.items ∧
      Document.read "* a\n  + b\n  - c\n- d\n".toList =
        [.list { plain with items := plain.items ++ [⟨['-'], ['d'], []⟩] }] ∧
      (⟨.list, .item ⟨['*'], ['a'], [.list ⟨false, ['+'],
        [⟨['+'], ['b'], []⟩, ⟨['-'], ['c'], []⟩]⟩]⟩⟩ : Placed) ∈
          (Document.read "* a\n  + b\n  - c\n- d\n".toList).preorder ∧
      Node.Unlike [.list ⟨false, ['+'], [⟨['+'], ['b'], []⟩, ⟨['-'], ['c'], []⟩]⟩] := by
  obtain ⟨l, hl⟩ : ∃ l : BlockList, l = ⟨⟨0, 16⟩, false, true, [⟨0, [.paragraph ⟨2, 4⟩ ⟨2, 3⟩,
      .list ⟨⟨6, 12⟩, false, true, [⟨6, [.paragraph ⟨8, 10⟩ ⟨8, 9⟩]⟩]⟩,
      .list ⟨⟨12, 16⟩, false, true, [⟨12, [.paragraph ⟨14, 16⟩ ⟨14, 15⟩]⟩]⟩]⟩]⟩ := ⟨_, rfl⟩
  obtain ⟨next, hnext⟩ : ∃ next : BlockList, next = ⟨⟨16, 20⟩, false, true,
      [⟨16, [.paragraph ⟨18, 20⟩ ⟨18, 19⟩]⟩]⟩ := ⟨_, rfl⟩
  obtain ⟨plain, hplain⟩ : ∃ plain : ItemList, plain = ⟨false, ['*'], [⟨['*'], ['a'],
      [.list ⟨false, ['+'], [⟨['+'], ['b'], []⟩, ⟨['-'], ['c'], []⟩]⟩]⟩]⟩ := ⟨_, rfl⟩
  have hblocks : (Source.read "* a\n  + b\n  - c\n- d\n".toList).blocks =
      [.list l, .list next] := by
    rw [hl, hnext]
    with_unfolding_all rfl
  have hdefinitions : (Source.read "* a\n  + b\n  - c\n- d\n".toList).definitions = [] := by
    with_unfolding_all rfl
  have hlist : list? "* a\n  + b\n  - c\n- d\n".toList l.ordered l.events = some plain := by
    rw [hl, hplain]
    simp only [list?, BlockList.events, BlockItem.eventsAll, Block.eventsAll, Block.events, items?,
      draft?, if_true, Event.countInside, Nat.reduceAdd, List.cons_append, List.nil_append,
      List.append_nil, List.take_succ_cons, List.take_zero, List.drop_succ_cons, List.drop_zero]
    rfl
  have hlistNext : list? "* a\n  + b\n  - c\n- d\n".toList next.ordered next.events =
      some ⟨false, ['-'], [⟨['-'], ['d'], []⟩]⟩ := by
    rw [hnext]
    simp only [list?, BlockList.events, BlockItem.eventsAll, Block.eventsAll, Block.events, items?,
      draft?, if_true, Event.countInside, List.cons_append, List.nil_append,
      List.take_succ_cons, List.take_zero, List.drop_succ_cons, List.drop_zero]
    rfl
  have hread : Document.read "* a\n  + b\n  - c\n- d\n".toList =
      [.list { plain with items := plain.items ++ [⟨['-'], ['d'], []⟩] }] := by
    rw [Document.read, hblocks, hdefinitions, List.foldr_cons, List.foldr_cons, consBlock, hlist,
      consBlock, hlistNext, hplain]
    rfl
  obtain ⟨_, hnested, _, hunlike⟩ := neighbouring_lists_joined "* a\n  + b\n  - c\n- d\n".toList
  have hmem : (⟨.list, .item ⟨['*'], ['a'], [.list ⟨false, ['+'],
      [⟨['+'], ['b'], []⟩, ⟨['-'], ['c'], []⟩]⟩]⟩⟩ : Placed) ∈
        (Document.read "* a\n  + b\n  - c\n- d\n".toList).preorder := by
    rw [hread, hplain]
    exact List.mem_cons_of_mem _ List.mem_cons_self
  exact ⟨l, next, plain, hblocks, hlist, (hnested l plain hlist).2.2, hread, hmem,
    hunlike _ hmem _ rfl⟩

end Reading

end Tidymark
