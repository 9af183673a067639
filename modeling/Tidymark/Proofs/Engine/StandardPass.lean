import Tidymark.Engine
import Tidymark.Proofs.Document.Normalized

/-!
# The standard pass

A pass of the standard rules visits the items of a list and the lists nested in
them again, although tidying the list has already gone through them.  The
further visits change nothing, so the pass amounts to one structural map, and
it fails exactly with the first misplaced node in preorder.
-/

namespace Tidymark

namespace Pass

variable {α β : Type}

/-- A pass comes to an outcome, whatever was applied before it. -/
def Yields (m : Pass α) (r : Except Failure α) : Prop := ∀ log, (m.run.run log).1 = r

theorem yields_pure (a : α) : Yields (pure a) (.ok a) := fun _ => rfl

theorem yields_throw (e : Failure) : Yields (throw e : Pass α) (.error e) := fun _ => rfl

theorem yields_modify (f : List Application → List Application) :
    Yields (modify f : Pass PUnit) (.ok ⟨⟩) := fun _ => rfl

theorem Yields.bind {m : Pass α} {r : Except Failure α} {f : α → Pass β}
    {g : α → Except Failure β} (hm : Yields m r) (hf : ∀ a, r = .ok a → Yields (f a) (g a)) :
    Yields (m >>= f) (r >>= g) := by
  intro log
  have hlog := hm log
  cases hrun : m.run.run log with
  | mk out log' =>
      rw [hrun] at hlog
      cases hlog
      rw [ExceptT.run_bind, StateT.run_bind, hrun]
      cases out with
      | error e => rfl
      | ok a => exact hf a rfl log'

theorem Yields.bind_ok {m : Pass α} {a : α} {f : α → Pass β} {r : Except Failure β}
    (hm : Yields m (.ok a)) (hf : Yields (f a) r) : Yields (m >>= f) r :=
  hm.bind (g := fun _ => r) fun _ hb => by cases hb; exact hf

theorem Yields.bind_error {m : Pass α} {e : Failure} {f : α → Pass β}
    (hm : Yields m (.error e)) : Yields (m >>= f) (.error e) :=
  hm.bind (g := fun _ => .error e) fun _ hb => by cases hb

theorem Yields.mapM {f : α → Pass β} {g : α → Except Failure β} {xs : List α}
    (h : ∀ x ∈ xs, Yields (f x) (g x)) : Yields (xs.mapM f) (xs.mapM g) := by
  induction xs with
  | nil => exact yields_pure []
  | cons x xs ih =>
      rw [List.mapM_cons, List.mapM_cons]
      refine (h x (by simp)).bind fun y _ => ?_
      exact (ih fun z hz => h z (by simp [hz])).bind fun ys _ => yields_pure (y :: ys)

theorem Yields.mapM_self {f : α → Pass α} {xs : List α} (h : ∀ x ∈ xs, Yields (f x) (.ok x)) :
    Yields (xs.mapM f) (.ok xs) := by
  induction xs with
  | nil => exact yields_pure []
  | cons x xs ih =>
      rw [List.mapM_cons]
      have hxs := ih fun y hy => h y (by simp [hy])
      exact (h x (by simp)).bind_ok (hxs.bind_ok (yields_pure (x :: xs)))

end Pass

namespace Engine

open Pass

theorem yields_dispatch {engine : Engine} {rule : Rule} {c : Config} {n : Node}
    (hrule : engine.ruleFor n.kind = some rule) :
    Yields (engine.dispatch c n) (rule.transform c n) := by
  rw [dispatch, hrule]
  refine (yields_modify _).bind (g := fun _ => rule.transform c n) fun _ _ => ?_
  cases rule.transform c n with
  | error e => exact yields_throw e
  | ok m => exact yields_pure m

theorem ruleFor_standard (kind : NodeKind) :
    standard.ruleFor kind = some (match kind with
      | .document => Rule.whitespace
      | .heading => Rule.heading
      | .paragraph => Rule.paragraph
      | .list => Rule.list
      | .item => Rule.list
      | .code => Rule.code
      | .text => Rule.inline) := by
  cases kind <;> rfl

/-- What visiting does behind the rule for a node: it visits the items of a list and the children
of an item. -/
def inside (engine : Engine) (c : Config) (depth : Nat) : Node → Pass Node
  | .list l => do
      let items ← l.items.mapM fun item => do
        match ← visit engine c depth (.item item) with
        | .item item => pure item
        | _ => pure item
      pure (.list { l with items })
  | .item i => do
      let children ← i.children.mapM (visit engine c depth)
      pure (.item { i with children })
  | n => pure n

theorem visit_succ {engine : Engine} {c : Config} {depth : Nat} {n : Node}
    (hn : n.kind ≠ .document) :
    engine.visit c (depth + 1) n = engine.dispatch c n >>= engine.inside c depth := by
  rw [visit]
  · rfl
  · rintro children rfl
    exact hn rfl

/-! ## Visiting what is tidy already -/

/-- Nothing is wrong with a list or an item, and normalising it changes nothing. -/
structure Settled (c : Config) (n : Node) : Prop where
  nested : n.kind = .list ∨ n.kind = .item
  plain : Placed.PlainItems n.descendants
  fixed : n.normalized c = n

theorem Settled.kind_ne_document {c : Config} {n : Node} (h : Settled c n) :
    n.kind ≠ .document := by
  rcases h.nested with hn | hn <;> simp [hn]

theorem normalized_of_mem_numbered {c : Config} {ordered : Bool} {n : Nat} {is : List Item}
    (h : Item.numbered c ordered n is = is) {i : Item} (hi : i ∈ is) : i.normalized c = i := by
  induction is generalizing n with
  | nil => cases hi
  | cons j rest ih =>
      rw [Item.numbered, List.cons.injEq] at h
      rcases List.mem_cons.mp hi with rfl | hi
      · obtain ⟨marker, text, children⟩ := i
        simp only [Item.normalized, Item.mk.injEq] at h ⊢
        exact ⟨trivial, h.1.2⟩
      · exact ih h.2 hi

theorem normalized_of_mem_normalizedAll {c : Config} {ns : List Node}
    (h : Node.normalizedAll c ns = ns) {n : Node} (hn : n ∈ ns) : n.normalized c = n := by
  induction ns with
  | nil => cases hn
  | cons m rest ih =>
      rw [Node.normalizedAll, List.cons.injEq] at h
      rcases List.mem_cons.mp hn with rfl | hn
      · exact h.1
      · exact ih h.2 hn

theorem Settled.of_mem_items {c : Config} {l : ItemList} (h : Settled c (.list l)) {i : Item}
    (hi : i ∈ l.items) : Settled c (.item i) := by
  obtain ⟨ordered, marker, items⟩ := l
  have hfixed := h.fixed
  simp only [Node.normalized, ItemList.normalized, Node.list.injEq, ItemList.mk.injEq,
    true_and] at hfixed
  refine ⟨.inr rfl, fun p hp => h.plain p (Item.mem_preorder_of_descendant hi hp), ?_⟩
  rw [Node.normalized, normalized_of_mem_numbered hfixed.2 hi]

theorem Settled.of_mem_children {c : Config} {i : Item} (h : Settled c (.item i)) {n : Node}
    (hn : n ∈ i.children) : Settled c n := by
  obtain ⟨marker, text, children⟩ := i
  have hfixed := h.fixed
  simp only [Node.normalized, Item.normalized, Node.item.injEq, Item.mk.injEq,
    true_and] at hfixed
  exact ⟨.inl (h.plain ⟨.item, n⟩ (Node.mem_preorder hn) rfl),
    fun p hp => h.plain p (Node.mem_preorder_of_descendant hn hp),
    normalized_of_mem_normalizedAll hfixed.2 hn⟩

theorem Settled.yields_dispatch {c : Config} {n : Node} (h : Settled c n) :
    Yields (standard.dispatch c n) (.ok n) := by
  have hcheck := (Node.check_descendants_iff h.kind_ne_document).mpr h.plain
  have htransform : Rule.list.transform c n = .ok n := by
    cases n with
    | list l =>
        have hl : l.normalized c = l := by simpa [Node.normalized] using h.fixed
        rw [Node.descendants] at hcheck
        simp only [Rule.list, Rule.listStep, ItemList.tidy_eq, hcheck, hl]
        rfl
    | item i =>
        have hi : i.normalized c = i := by simpa [Node.normalized] using h.fixed
        rw [Node.descendants] at hcheck
        simp only [Rule.list, Rule.listStep, Item.tidy_eq, hcheck, hi]
        rfl
    | document _ | heading _ | paragraph _ | code _ | text _ => rfl
  rw [← htransform]
  apply Engine.yields_dispatch
  rcases h.nested with hn | hn <;> rw [ruleFor_standard, hn]

theorem Settled.yields_inside {c : Config} {depth : Nat} {n : Node} (h : Settled c n)
    (ih : ∀ {m : Node}, Settled c m → Yields (standard.visit c depth m) (.ok m)) :
    Yields (standard.inside c depth n) (.ok n) := by
  cases n with
  | document _ | heading _ | paragraph _ | code _ | text _ => exact yields_pure _
  | list l =>
      obtain ⟨ordered, marker, items⟩ := l
      refine Yields.bind_ok (a := items) ?_ (yields_pure _)
      exact Yields.mapM_self fun i hi => (ih (h.of_mem_items hi)).bind_ok (yields_pure i)
  | item i =>
      obtain ⟨marker, text, children⟩ := i
      refine Yields.bind_ok (a := children) ?_ (yields_pure _)
      exact Yields.mapM_self fun m hm => ih (h.of_mem_children hm)

/-- Visiting a settled node leaves it as it is. -/
theorem Settled.yields_visit {c : Config} {depth : Nat} {n : Node} (h : Settled c n) :
    Yields (standard.visit c depth n) (.ok n) := by
  induction depth generalizing n with
  | zero => exact yields_pure n
  | succ depth ih =>
      rw [visit_succ h.kind_ne_document]
      exact h.yields_dispatch.bind_ok (h.yields_inside ih)

/-! ## The pass as a map -/

/-- Normalising a list or an item settles it, if items hold lists only. -/
theorem settled_normalized {c : Config} {n : Node} (hn : n.kind = .list ∨ n.kind = .item)
    (h : Placed.PlainItems n.descendants) : Settled c (n.normalized c) where
  nested := by rw [Node.kind_normalized]; exact hn
  plain := Placed.plainItems_of_kinds (Node.kinds_descendants_normalized c n) h
  fixed := by
    cases n with
    | document _ | heading _ | paragraph _ | code _ | text _ =>
        rcases hn with hn | hn <;> cases hn
    | list l => exact congrArg Node.list (ItemList.normalized_normalized c l h)
    | item i => exact congrArg Node.item (Item.normalized_normalized c i h)

/-- What the standard rules make of a node other than a document. -/
theorem yields_dispatch_standard (c : Config) {n : Node} (hn : n.kind ≠ .document) :
    Yields (standard.dispatch c n)
      (Placed.check n.descendants >>= fun _ => .ok (n.normalized c)) := by
  have htransform {rule : Rule} (hrule : standard.ruleFor n.kind = some rule) :
      rule.transform c n = Placed.check n.descendants >>= fun _ => .ok (n.normalized c) := by
    rw [ruleFor_standard] at hrule
    cases n with
    | document _ => exact absurd rfl hn
    | heading _ | paragraph _ | code _ | text _ => cases hrule; rfl
    | list l =>
        cases hrule
        show Rule.listStep c (.list l) = _
        rw [Rule.listStep, ItemList.tidy_eq, Node.descendants]
        cases Placed.check l.descendants with
        | error e => rfl
        | ok _ => rfl
    | item i =>
        cases hrule
        show Rule.listStep c (.item i) = _
        rw [Rule.listStep, Item.tidy_eq, Node.descendants]
        cases Placed.check i.descendants with
        | error e => rfl
        | ok _ => rfl
  rw [← htransform (ruleFor_standard n.kind)]
  exact yields_dispatch (ruleFor_standard n.kind)

/-- Visiting a root fails with the first misplaced node in preorder, or normalises the root. -/
theorem yields_visit_root (c : Config) (depth : Nat) (n : Node) :
    Yields (standard.visit c (depth + 1) n)
      (Placed.check (⟨.document, n⟩ :: n.descendants) >>= fun _ => .ok (n.normalized c)) := by
  by_cases hn : n.kind = .document
  · cases n with
    | document children => exact yields_throw _
    | heading _ | paragraph _ | list _ | item _ | code _ | text _ => cases hn
  · rw [visit_succ hn, Placed.check_cons (by simpa [Placed.misplaced] using hn)]
    have hdispatch := yields_dispatch_standard c hn
    cases hcheck : Placed.check n.descendants with
    | error e =>
        rw [hcheck] at hdispatch
        exact hdispatch.bind_error
    | ok _ =>
        rw [hcheck] at hdispatch
        have hplain := Placed.plainItems_of_check hcheck
        refine hdispatch.bind_ok ?_
        cases n with
        | document _ => exact absurd rfl hn
        | heading _ | paragraph _ | code _ | text _ => exact yields_pure _
        | list l => exact (settled_normalized (.inl rfl) hplain).yields_inside Settled.yields_visit
        | item i => exact (settled_normalized (.inr rfl) hplain).yields_inside Settled.yields_visit

theorem mapM_check_normalized (c : Config) (d : Document) :
    (d.mapM fun n =>
        Placed.check (⟨.document, n⟩ :: n.descendants) >>= fun _ => Except.ok (n.normalized c)) =
      Placed.check d.preorder >>= fun _ => .ok (d.map (Node.normalized c)) := by
  induction d with
  | nil => rfl
  | cons n rest ih =>
      have hsplit : Document.preorder (n :: rest) =
          (⟨.document, n⟩ :: n.descendants) ++ Document.preorder rest := rfl
      rw [List.mapM_cons, ih, hsplit, Placed.check_append]
      cases Placed.check (⟨.document, n⟩ :: n.descendants) with
      | error e => rfl
      | ok _ =>
          cases Placed.check (Document.preorder rest) with
          | error e => rfl
          | ok _ => rfl

/-- The standard pass fails with the first misplaced node in preorder, or normalises every root. -/
theorem format_standard (c : Config) (d : Document) :
    standard.format c d =
      Placed.check d.preorder >>= fun _ => .ok (d.map (Node.normalized c)) := by
  have hroots : Yields (d.mapM fun n => standard.visit c (n.height + 1) n)
      (Placed.check d.preorder >>= fun _ => .ok (d.map (Node.normalized c))) := by
    rw [← mapM_check_normalized]
    exact Yields.mapM fun n _ => yields_visit_root c n.height n
  have hroot : Rule.whitespace.transform c (.document d) = .ok (.document d) := by
    simp only [Rule.whitespace, Rule.ofLeaf, Rule.whitespaceStep, Rule.trimStep, ite_self]
  have hdispatch : Yields (standard.dispatch c (.document d)) (.ok (.document d)) := by
    rw [← hroot]
    exact yields_dispatch (ruleFor_standard .document)
  exact (hdispatch.bind_ok hroots) []

/-- The standard pass is one structural map, which numbers the items of each list from one.  It
succeeds exactly on well-shaped documents, and otherwise fails with the first misplaced node in
preorder. -/
theorem standard_pass_eq_map (c : Config) (d : Document) :
    standard.format c d =
        (match d.preorder.find? Placed.misplaced with
        | some p => .error p.failure
        | none => .ok (d.map (Node.normalized c))) ∧
      (d.preorder.find? Placed.misplaced = none ↔ d.WellShaped) ∧
      ∀ (l : ItemList) (k : Nat), (l.normalized c).items[k]? =
        l.items[k]?.map fun i =>
          { i.normalized c with marker := c.list.itemMarker l.ordered (k + 1) } := by
  refine ⟨?_, ?_, fun l k => ?_⟩
  · rw [format_standard, Placed.check]
    cases d.preorder.find? Placed.misplaced with
    | none => rfl
    | some p => rfl
  · rw [← Document.check_preorder_iff, Placed.check]
    cases d.preorder.find? Placed.misplaced with
    | none => simp
    | some p => simp
  · obtain ⟨ordered, _, items⟩ := l
    rw [ItemList.normalized, Item.getElem?_numbered, Nat.add_comm 1 k]

end Engine

end Tidymark
