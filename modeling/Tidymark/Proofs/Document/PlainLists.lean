import Tidymark.Proofs.Document.ReadShape
import Tidymark.Proofs.Markdown.Events

/-!
# Plain lists

A list is plain if each of its items consists of one stretch of inline text,
bare or in one paragraph, or of none, and of plain lists behind it.  Exactly
the plain lists are read as lists; the others stay as they stand in the
source.  What counts as bare inline text is a parameter of the grammar: the
reader takes thematic breaks for it, which are blocks.
-/

namespace Tidymark

open Markdown

/-! ## The grammar -/

section Grammar

variable (inline : Bare → Bool)

/-- Bare inline text. -/
inductive InlineRun : List Event → Prop where
  | nil : InlineRun []
  | bare {what : Bare} {rest : List Event} (hwhat : inline what = true) (span : Span)
      (h : InlineRun rest) : InlineRun (.bare what span :: rest)
  | element {tag : Tag} {inside rest : List Event} (htag : tag.isInline = true) (span : Span)
      (hinside : Balanced inside) (h : InlineRun rest) :
      InlineRun (.start tag span :: (inside ++ .stop :: rest))

mutual

/-- The items of a plain list. -/
inductive PlainItems : List Event → Prop where
  | nil : PlainItems []
  | item {inside rest : List Event} (span : Span) (hinside : PlainItem inside)
      (h : PlainItems rest) : PlainItems (.start .item span :: (inside ++ .stop :: rest))

/-- What stands in an item of a plain list. -/
inductive PlainItem : List Event → Prop where
  | run {run lists : List Event} (hrun : InlineRun inline run) (h : PlainLists lists) :
      PlainItem (run ++ lists)
  | paragraph {inside lists : List Event} (span : Span) (hinside : Balanced inside)
      (h : PlainLists lists) : PlainItem (.start .paragraph span :: (inside ++ .stop :: lists))

/-- Plain lists one behind the other. -/
inductive PlainLists : List Event → Prop where
  | nil : PlainLists []
  | list {inside rest : List Event} (ordered : Bool) (span : Span) (hinside : PlainItems inside)
      (h : PlainLists rest) :
      PlainLists (.start (.list ordered) span :: (inside ++ .stop :: rest))

end

variable {inline}

theorem InlineRun.balanced {events : List Event} (h : InlineRun inline events) :
    Balanced events := by
  induction h with
  | nil => exact .nil
  | bare _ span _ ih => exact .bare _ span ih
  | element _ span hinside _ ih => exact .element _ span hinside ih

mutual

theorem PlainItems.balanced {events : List Event} (h : PlainItems inline events) :
    Balanced events := by
  match h with
  | .nil => exact .nil
  | .item span hinside h => exact .element _ span hinside.balanced h.balanced

theorem PlainItem.balanced {events : List Event} (h : PlainItem inline events) :
    Balanced events := by
  match h with
  | .run hrun h => exact hrun.balanced.append h.balanced
  | .paragraph span hinside h => exact .element _ span hinside h.balanced

theorem PlainLists.balanced {events : List Event} (h : PlainLists inline events) :
    Balanced events := by
  match h with
  | .nil => exact .nil
  | .list _ span hinside h => exact .element _ span hinside.balanced h.balanced

end

section Bare

variable {allowed : Bare → Bool} {whole : List Event}

/-- A plain list stays plain if other events count as inline text, all of its own among them. -/
theorem InlineRun.of_bare (hbare : ∀ what span, .bare what span ∈ whole → allowed what = true)
    {events : List Event} (h : InlineRun inline events) (hsub : events ⊆ whole) :
    InlineRun allowed events := by
  induction h with
  | nil => exact .nil
  | @bare what rest hwhat span _ ih =>
      rw [List.cons_subset] at hsub
      exact .bare (hbare what span hsub.1) span (ih hsub.2)
  | element htag span hinside _ ih =>
      rw [List.cons_subset, List.append_subset, List.cons_subset] at hsub
      exact .element htag span hinside (ih hsub.2.2.2)

mutual

theorem PlainItems.of_bare (hbare : ∀ what span, .bare what span ∈ whole → allowed what = true)
    {events : List Event} (h : PlainItems inline events) (hsub : events ⊆ whole) :
    PlainItems allowed events := by
  match h with
  | .nil => exact .nil
  | .item span hinside h =>
      rw [List.cons_subset, List.append_subset, List.cons_subset] at hsub
      exact .item span (hinside.of_bare hbare hsub.2.1) (h.of_bare hbare hsub.2.2.2)

theorem PlainItem.of_bare (hbare : ∀ what span, .bare what span ∈ whole → allowed what = true)
    {events : List Event} (h : PlainItem inline events) (hsub : events ⊆ whole) :
    PlainItem allowed events := by
  match h with
  | .run hrun h =>
      rw [List.append_subset] at hsub
      exact .run (hrun.of_bare hbare hsub.1) (h.of_bare hbare hsub.2)
  | .paragraph span hinside h =>
      rw [List.cons_subset, List.append_subset, List.cons_subset] at hsub
      exact .paragraph span hinside (h.of_bare hbare hsub.2.2.2)

theorem PlainLists.of_bare (hbare : ∀ what span, .bare what span ∈ whole → allowed what = true)
    {events : List Event} (h : PlainLists inline events) (hsub : events ⊆ whole) :
    PlainLists allowed events := by
  match h with
  | .nil => exact .nil
  | .list ordered span hinside h =>
      rw [List.cons_subset, List.append_subset, List.cons_subset] at hsub
      exact .list ordered span (hinside.of_bare hbare hsub.2.1) (h.of_bare hbare hsub.2.2.2)

end

end Bare

/-! ## What a plain list begins with -/

theorem PlainItems.of_item {span : Span} {inside rest : List Event} (hinside : Balanced inside)
    (h : PlainItems inline (.start .item span :: (inside ++ .stop :: rest))) :
    PlainItem inline inside ∧ PlainItems inline rest := by
  generalize heq : Event.start .item span :: (inside ++ .stop :: rest) = events at h
  cases h with
  | nil => cases heq
  | item span' hinside' h =>
      obtain ⟨rfl, rfl⟩ := Event.inside_inj hinside hinside'.balanced (List.cons.inj heq).2
      exact ⟨hinside', h⟩

theorem PlainItem.of_bare_cons {what : Bare} {span : Span} {rest : List Event}
    (h : PlainItem inline (.bare what span :: rest)) :
    inline what = true ∧ PlainItem inline rest := by
  generalize heq : Event.bare what span :: rest = events at h
  cases h with
  | run hrun h =>
      cases hrun with
      | nil =>
          rw [List.nil_append] at heq
          subst heq
          cases h
      | bare hwhat span' hrun =>
          cases heq
          exact ⟨hwhat, .run hrun h⟩
      | element _ _ _ _ => cases heq
  | paragraph _ _ _ => cases heq

end Grammar

namespace Reading

variable {source : Text} {inside rest events : List Event}

/-! ## One element at a time -/

theorem items?_item (h : Balanced inside) (span : Span) :
    items? source (.start .item span :: (inside ++ .stop :: rest)) =
      (draft? source {} inside).bind fun draft =>
        (items? source rest).map (draft.item source span :: ·) := by
  rw [items?]
  simp only [Event.take_countInside h, Event.drop_countInside h, Option.map_eq_bind]
  rfl

theorem draft?_list (h : Balanced inside) (d : Draft) (ordered : Bool) (span : Span) :
    draft? source d (.start (.list ordered) span :: (inside ++ .stop :: rest)) =
      (items? source inside).bind fun items =>
        draft? source (d.addList source (listOf ordered items)) rest := by
  rw [draft?]
  simp only [Event.take_countInside h, Event.drop_countInside h]
  rfl

theorem draft?_paragraph (h : Balanced inside) (d : Draft) (span : Span) :
    draft? source d (.start .paragraph span :: (inside ++ .stop :: rest)) =
      (d.addParagraph (inlineText source inside)).bind fun d => draft? source d rest := by
  rw [draft?]
  simp only [Event.take_countInside h, Event.drop_countInside h]
  rfl

theorem draft?_inline (h : Balanced inside) {tag : Tag} (htag : tag.isInline = true) (d : Draft)
    (span : Span) : draft? source d (.start tag span :: (inside ++ .stop :: rest)) =
      (d.addRun span).bind fun d => draft? source d rest := by
  rw [draft?, if_pos htag]
  · simp only [Event.drop_countInside h]
    rfl
  · rintro ordered rfl
    cases htag
  · rintro rfl
    cases htag

theorem draft?_bare (d : Draft) (what : Bare) (span : Span) :
    draft? source d (.bare what span :: rest) =
      (d.addRun span).bind fun d => draft? source d rest := by
  rw [draft?]
  rfl

theorem draft?_block {tag : Tag} (htag : tag.isInline = false) (hparagraph : tag ≠ .paragraph)
    (hlist : ∀ ordered, tag ≠ .list ordered) (d : Draft) (span : Span) :
    draft? source d (.start tag span :: rest) = none := by
  rw [draft?, if_neg (by simp [htag])]
  · exact hlist
  · exact hparagraph

/-! ## What a draft admits -/

namespace Draft

/-- Nothing but lists may follow: the text of the item is settled. -/
def Settled (d : Draft) : Prop := d.text.isSome = true ∨ d.nested ≠ []

theorem not_settled_iff {d : Draft} : ¬d.Settled ↔ d.text = none ∧ d.nested = [] := by
  rw [Settled, not_or, Bool.not_eq_true, Option.isSome_eq_false_iff, Option.isNone_iff_eq_none,
    Classical.not_not]

theorem exists_addRun {d : Draft} (hd : ¬d.Settled) (span : Span) :
    ∃ e, d.addRun span = some e ∧ ¬e.Settled ∧ e.run.isSome = true := by
  obtain ⟨htext, hnested⟩ := not_settled_iff.mp hd
  refine ⟨{ d with run := cover (d.run.toList ++ [span]) }, ?_,
    not_settled_iff.mpr ⟨htext, hnested⟩, ?_⟩
  · simp [addRun, htext, hnested]
  · cases d.run <;> rfl

theorem addRun_of_settled {d : Draft} (hd : d.Settled) (span : Span) : d.addRun span = none := by
  rcases hd with hd | hd <;> simp [addRun, hd]

theorem settled_addList (source : Text) (d : Draft) (l : ItemList) :
    (d.addList source l).Settled := by
  right
  simp [addList]

theorem settled_addParagraph {d e : Draft} {text : Text} (h : d.addParagraph text = some e) :
    ¬d.Settled ∧ d.run = none ∧ e.Settled := by
  rw [addParagraph] at h
  split at h
  · cases h
  · next hfresh =>
      cases h
      simp only [Bool.or_eq_true, not_or, Bool.not_eq_true, Option.isSome_eq_false_iff,
        Option.isNone_iff_eq_none, Bool.not_eq_false', List.isEmpty_iff] at hfresh
      exact ⟨not_settled_iff.mpr ⟨hfresh.1.1, hfresh.2⟩, hfresh.1.2, .inl rfl⟩

end Draft

/-! ## Plain lists are read -/

variable {inline : Bare → Bool}

theorem exists_draft?_of_run (source : Text) {events : List Event} (h : InlineRun inline events)
    {d : Draft} (hd : ¬d.Settled) (rest : List Event) :
    ∃ e, ¬e.Settled ∧ draft? source d (events ++ rest) = draft? source e rest := by
  induction h generalizing d with
  | nil => exact ⟨d, hd, rfl⟩
  | bare _ span _ ih =>
      obtain ⟨e, hadd, he, _⟩ := Draft.exists_addRun hd span
      rw [List.cons_append, draft?_bare, hadd]
      exact ih he
  | element htag span hinside _ ih =>
      obtain ⟨e, hadd, he, _⟩ := Draft.exists_addRun hd span
      rw [List.cons_append, List.append_assoc, List.cons_append, draft?_inline hinside htag, hadd]
      exact ih he

theorem Draft.not_settled_fresh : ¬({} : Draft).Settled := Draft.not_settled_iff.mpr ⟨rfl, rfl⟩

mutual

theorem exists_items? (source : Text) {events : List Event} (h : PlainItems inline events) :
    ∃ is, items? source events = some is := by
  match h with
  | .nil => exact ⟨[], by rw [items?]⟩
  | .item span hinside h =>
      obtain ⟨d, hd⟩ := exists_draft?_of_item source hinside
      obtain ⟨is, his⟩ := exists_items? source h
      refine ⟨d.item source span :: is, ?_⟩
      rw [items?_item hinside.balanced, hd, his]
      rfl

theorem exists_draft?_of_item (source : Text) {events : List Event}
    (h : PlainItem inline events) : ∃ d, draft? source {} events = some d := by
  match h with
  | .run hrun h =>
      obtain ⟨e, _, he⟩ := exists_draft?_of_run source hrun Draft.not_settled_fresh _
      rw [he]
      exact exists_draft?_of_lists source h e
  | .paragraph span hinside h =>
      rw [draft?_paragraph hinside]
      exact exists_draft?_of_lists source h { text := some (inlineText source _) }

theorem exists_draft?_of_lists (source : Text) {events : List Event}
    (h : PlainLists inline events) (d : Draft) : ∃ e, draft? source d events = some e := by
  match h with
  | .nil => exact ⟨d, by rw [draft?]⟩
  | .list ordered span hinside h =>
      obtain ⟨is, his⟩ := exists_items? source hinside
      rw [draft?_list hinside.balanced, his]
      exact exists_draft?_of_lists source h (d.addList source (listOf ordered is))

end

/-! ## What is read is a plain list -/

/-- Every event without a start and a stop of its own is taken for inline text. -/
abbrev anyBare : Bare → Bool := fun _ => true

structure Draft.Takes (d : Draft) (events : List Event) : Prop where
  settled : d.Settled → PlainLists anyBare events
  running : ¬d.Settled → d.run.isSome = true →
    ∃ run lists, InlineRun anyBare run ∧ PlainLists anyBare lists ∧ events = run ++ lists
  begun : ¬d.Settled → PlainItem anyBare events

theorem Draft.Takes.cons_run {d e : Draft} {span : Span} {first : List Event}
    (hadd : d.addRun span = some e) (h : e.Takes rest)
    (hfirst : ∀ {run : List Event}, InlineRun anyBare run → InlineRun anyBare (first ++ run)) :
    d.Takes (first ++ rest) := by
  by_cases hd : d.Settled
  · rw [addRun_of_settled hd] at hadd
    cases hadd
  · obtain ⟨e', hadd', hsettled, hrun⟩ := exists_addRun hd span
    cases hadd.symm.trans hadd'
    obtain ⟨run, lists, hinline, hlists, rfl⟩ := h.running hsettled hrun
    have hmore : InlineRun anyBare (first ++ run) := hfirst hinline
    refine ⟨fun h => absurd h hd, fun _ _ => ⟨_, lists, hmore, hlists, ?_⟩, fun _ => ?_⟩
    · rw [List.append_assoc]
    · rw [← List.append_assoc]
      exact .run hmore hlists

/-- Only lists are left to stand in front of lists. -/
theorem Draft.takes_of_lists {d : Draft} (h : PlainLists anyBare events) : d.Takes events where
  settled _ := h
  running _ _ := ⟨[], events, .nil, h, rfl⟩
  begun _ := .run .nil h

def ItemsPlain (source : Text) (events : List Event) : Prop :=
  ∀ is, items? source events = some is → PlainItems anyBare events

/-- A draft takes in the events that are read for it. -/
def DraftTakes (source : Text) (events : List Event) : Prop :=
  ∀ d e, draft? source d events = some e → d.Takes events

theorem itemsPlain_element {tag : Tag} {span : Span} (hinside : Balanced inside)
    (hdraft : DraftTakes source inside) (hitems : ItemsPlain source rest) :
    ItemsPlain source (.start tag span :: (inside ++ .stop :: rest)) := by
  intro is h
  by_cases htag : tag = .item
  · subst htag
    rw [items?_item hinside] at h
    obtain ⟨d, hd, h⟩ := Option.bind_eq_some_iff.mp h
    obtain ⟨is, his, _⟩ := Option.map_eq_some_iff.mp h
    exact .item span ((hdraft {} d hd).begun Draft.not_settled_fresh) (hitems is his)
  · rw [items?] at h
    · cases h
    · rintro _ ⟨⟩
      exact htag rfl

theorem draftTakes_element {tag : Tag} {span : Span} (hinside : Balanced inside)
    (hitems : ItemsPlain source inside) (hdraft : DraftTakes source rest) :
    DraftTakes source (.start tag span :: (inside ++ .stop :: rest)) := by
  intro d e h
  have hinline (htag : tag.isInline = true) :
      d.Takes (.start tag span :: (inside ++ .stop :: rest)) := by
    rw [draft?_inline hinside htag] at h
    obtain ⟨d', hadd, h⟩ := Option.bind_eq_some_iff.mp h
    have hfirst {run : List Event} (hrun : InlineRun anyBare run) :
        InlineRun anyBare ((.start tag span :: (inside ++ [.stop])) ++ run) := by
      simpa using InlineRun.element htag span hinside hrun
    simpa using Draft.Takes.cons_run hadd (hdraft d' e h) hfirst
  have hblock (htag : tag.isInline = false) (hparagraph : tag ≠ .paragraph)
      (hlist : ∀ ordered, tag ≠ .list ordered) :
      d.Takes (.start tag span :: (inside ++ .stop :: rest)) := by
    rw [draft?_block htag hparagraph hlist] at h
    cases h
  cases tag with
  | list ordered =>
      rw [draft?_list hinside] at h
      obtain ⟨is, his, h⟩ := Option.bind_eq_some_iff.mp h
      have hrest := (hdraft _ e h).settled (d.settled_addList source (listOf ordered is))
      exact Draft.takes_of_lists (.list ordered span (hitems is his) hrest)
  | paragraph =>
      rw [draft?_paragraph hinside] at h
      obtain ⟨d', hadd, h⟩ := Option.bind_eq_some_iff.mp h
      obtain ⟨hsettled, hrun, hsettled'⟩ := Draft.settled_addParagraph hadd
      refine ⟨fun hd => absurd hd hsettled, fun _ hd => ?_, fun _ => ?_⟩
      · rw [hrun] at hd
        cases hd
      · exact .paragraph span hinside ((hdraft d' e h).settled hsettled')
  | emphasis | strong | strikethrough | link | image => exact hinline rfl
  | heading | code | item | other => exact hblock rfl (by rintro ⟨⟩) (by rintro _ ⟨⟩)

/-- What is read of balanced events is plain. -/
theorem plain_of_balanced (source : Text) (h : Balanced events) :
    ItemsPlain source events ∧ DraftTakes source events := by
  induction h with
  | nil => exact ⟨fun _ _ => .nil, fun _ _ _ => Draft.takes_of_lists .nil⟩
  | bare what span _ ih =>
      refine ⟨fun is his => ?_, fun d e he => ?_⟩
      · rw [items?] at his
        · cases his
        · rintro _ ⟨⟩
      · rw [draft?_bare] at he
        obtain ⟨d', hadd, he⟩ := Option.bind_eq_some_iff.mp he
        have hfirst {run : List Event} (hrun : InlineRun anyBare run) :
            InlineRun anyBare ([.bare what span] ++ run) := .bare rfl span hrun
        exact Draft.Takes.cons_run hadd (ih.2 d' e he) hfirst
  | element tag span hinside _ ihinside ih =>
      exact ⟨itemsPlain_element hinside ihinside.2 ih.1, draftTakes_element hinside ihinside.1 ih.2⟩

/-- Of balanced events exactly the plain ones are read as a list. -/
theorem isSome_list?_iff_plainItems (source : Text) (ordered : Bool) (h : Balanced events) :
    (list? source ordered events).isSome = true ↔ PlainItems anyBare events := by
  rw [list?, Option.isSome_map, Option.isSome_iff_exists]
  constructor
  · rintro ⟨is, his⟩
    exact (plain_of_balanced source h).1 is his
  · exact exists_items? source

/-! ## Lists in documents -/

theorem consList_append (l : ItemList) (front : List Node) {n : Node} (hn : n.kind ≠ .list)
    (back : List Node) :
    Node.consList l (front ++ n :: back) = Node.consList l front ++ n :: back := by
  cases front with
  | nil =>
      cases n with
      | list _ => exact absurd rfl hn
      | document _ | heading _ | paragraph _ | item _ | code _ | text _ => rfl
  | cons m front =>
      cases m with
      | list next =>
          rw [List.cons_append, Node.consList, Node.consList]
          split <;> rfl
      | document _ | heading _ | paragraph _ | item _ | code _ | text _ => rfl

theorem consBlock_append (source : Text) (b : Block) (front : List Node) {n : Node}
    (hn : n.kind ≠ .list) (back : List Node) :
    consBlock source b (front ++ n :: back) = consBlock source b front ++ n :: back := by
  rcases consBlock_cases source b with ⟨l, plain, _, _, heq⟩ | ⟨m, _, heq⟩
  · rw [heq, heq]
    exact consList_append plain front hn back
  · rw [heq, heq, List.cons_append]

theorem foldr_consBlock_append (source : Text) (blocks : List Block) {n : Node}
    (hn : n.kind ≠ .list) (back : List Node) :
    blocks.foldr (consBlock source) (n :: back) =
      blocks.foldr (consBlock source) [] ++ n :: back := by
  induction blocks with
  | nil => rfl
  | cons b blocks ih =>
      rw [List.foldr_cons, List.foldr_cons, ih, consBlock_append source b _ hn]

/-- A list that is not plain stays as it stands in the source, between what is read in front of it
and behind it. -/
theorem read_of_not_plain (source : Text) {before after : List Block} {l : BlockList}
    (hblocks : (Source.read source).blocks = before ++ .list l :: after)
    (hplain : ¬PlainItems anyBare l.events) :
    Document.read source = before.foldr (consBlock source) [] ++
      .text (Text.trimEnd (Text.slice source l.span)) ::
        after.foldr (consBlock source) (definitionNodes source (Source.read source).blocks
          (Source.read source).definitions) := by
  have hnone : list? source l.ordered l.events = none := by
    rw [← isSome_list?_iff_plainItems source l.ordered l.balanced_events] at hplain
    simpa using hplain
  have hkept (rest : List Node) : consBlock source (.list l) rest =
      .text (Text.trimEnd (Text.slice source l.span)) :: rest := by
    rw [consBlock, hnone]
    rfl
  rw [Document.read]
  generalize definitionNodes source _ _ = definitions
  rw [hblocks, List.foldr_append, List.foldr_cons, hkept]
  exact foldr_consBlock_append source before (by simp [Node.kind]) _

/-! ## Thematic breaks -/

/-- Thematic breaks are no inline text, though no event starts or stops them. -/
def isInlineBare (what : Bare) : Bool := what != .thematicBreak

/-- Of balanced events exactly the plain ones are read as a list, if all events that stand alone
count as inline text; without thematic breaks they are.  A list of a source that is not plain stays
in the document as it stands there, without the blanks behind it, and what is read in front of it
and behind it does not depend on it. -/
theorem lists_read_iff_plain (source : Text) :
    (∀ ordered events, Balanced events →
      ((list? source ordered events).isSome = true ↔ PlainItems anyBare events) ∧
        ((∀ span, .bare .thematicBreak span ∉ events) →
          ((list? source ordered events).isSome = true ↔ PlainItems isInlineBare events))) ∧
      ∀ before l after, (Source.read source).blocks = before ++ .list l :: after →
        Balanced l.events ∧ (¬PlainItems anyBare l.events →
          Document.read source = before.foldr (consBlock source) [] ++
            .text (Text.trimEnd (Text.slice source l.span)) ::
              after.foldr (consBlock source) (definitionNodes source (Source.read source).blocks
                (Source.read source).definitions)) := by
  constructor
  · intro ordered events hbalanced
    have hread := isSome_list?_iff_plainItems source ordered hbalanced
    refine ⟨hread, fun hbreak => ?_⟩
    have hbare (what : Bare) (span : Span) (hmem : .bare what span ∈ events) :
        isInlineBare what = true := by
      rw [isInlineBare, bne_iff_ne]
      rintro rfl
      exact hbreak span hmem
    rw [hread]
    exact ⟨fun h => h.of_bare hbare (List.Subset.refl events),
      fun h => h.of_bare (fun _ _ _ => rfl) (List.Subset.refl events)⟩
  · intro before l after hblocks
    exact ⟨l.balanced_events, read_of_not_plain source hblocks⟩

/-- The item `a` with a heading behind it: the whole list stays as it is. -/
theorem lists_read_iff_plain_heading : ∃ l : BlockList,
    (Source.read "- a\n\n  # b\n".toList).blocks = [] ++ .list l :: [] ∧ Balanced l.events ∧
      (∀ span, .bare .thematicBreak span ∉ l.events) ∧ ¬PlainItems isInlineBare l.events ∧
        ¬PlainItems anyBare l.events ∧
          Document.read "- a\n\n  # b\n".toList = [.text "- a\n\n  # b".toList] := by
  obtain ⟨l, hl⟩ : ∃ l : BlockList, l = ⟨⟨0, 11⟩, false, false,
      [⟨0, [.paragraph ⟨2, 4⟩ ⟨2, 3⟩, .heading ⟨7, 11⟩ 1 ⟨9, 10⟩]⟩]⟩ := ⟨_, rfl⟩
  have hblocks : (Source.read "- a\n\n  # b\n".toList).blocks = [] ++ .list l :: [] := by
    rw [hl]
    with_unfolding_all rfl
  have hdefinitions : (Source.read "- a\n\n  # b\n".toList).definitions = [] := by
    with_unfolding_all rfl
  have hbreak (span : Span) : .bare .thematicBreak span ∉ l.events := by
    simp [hl, BlockList.events, BlockItem.eventsAll, Block.eventsAll, Block.events]
  obtain ⟨haccepts, hdocument⟩ := lists_read_iff_plain "- a\n\n  # b\n".toList
  obtain ⟨hbalanced, hkept⟩ := hdocument [] l [] hblocks
  obtain ⟨hplain, hinline⟩ := haccepts false l.events hbalanced
  have hread : list? "- a\n\n  # b\n".toList false l.events = none := by
    rw [hl]
    with_unfolding_all rfl
  rw [hread] at hplain hinline
  have hnot : ¬PlainItems anyBare l.events := mt hplain.mpr Bool.false_ne_true
  refine ⟨l, hblocks, hbalanced, hbreak, mt (hinline hbreak).mpr Bool.false_ne_true, hnot, ?_⟩
  rw [hkept hnot, hdefinitions, hl]
  rfl

/-- The item of `+ ---` holds a thematic break, and the list is read all the same. -/
theorem lists_not_only_inline :
    ¬∀ (source : Text) (l : BlockList), .list l ∈ (Source.read source).blocks →
      ((list? source l.ordered l.events).isSome = true ↔ PlainItems isInlineBare l.events) := by
  intro hclaim
  have hblocks : (Source.read "+ ---\n".toList).blocks =
      [.list ⟨⟨0, 6⟩, false, true, [⟨0, [.thematicBreak ⟨2, 6⟩]⟩]⟩] := by with_unfolding_all rfl
  have hmem : .list _ ∈ (Source.read "+ ---\n".toList).blocks := hblocks ▸ List.mem_cons_self
  have hplain := (hclaim _ _ hmem).mp (by decide +kernel)
  have hitem := (PlainItems.of_item (.bare .thematicBreak ⟨2, 6⟩ .nil) hplain).1
  cases hitem.of_bare_cons.1

end Reading

end Tidymark
