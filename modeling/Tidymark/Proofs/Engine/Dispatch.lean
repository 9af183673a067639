import Mathlib.Data.List.Forall2
import Tidymark.Proofs.Document.Frame
import Tidymark.Proofs.Engine.Course
import Tidymark.Proofs.Engine.Order
import Tidymark.Proofs.Engine.StandardPass

/-!
# What a pass applies

A pass takes the course that is due in the document as it was before the pass,
as long as its rules neither move nodes nor let what they changed decide where
they fail.  Rules that leave nodes as they are may be told to fail by anything
they see; next to the standard rules they may look at kinds.
-/

namespace Tidymark

namespace Engine

open Pass

/-- What may have become of a node before a pass comes to it. -/
abbrev Fate := Node → Node → Prop

def Fate.ofItem (R : Fate) : Item → Item → Prop := fun i j => R (.item i) (.item j)

/-- The rules of an engine let nodes become what a relation allows, which neither moves nodes nor
decides where a rule fails. -/
structure Allows (engine : Engine) (c : Config) (R : Fate) : Prop where
  refl : ∀ n, R n n
  kind : ∀ {n m}, R n m → m.kind = n.kind
  items : ∀ {l k : ItemList}, R (.list l) (.list k) → List.Forall₂ R.ofItem l.items k.items
  withItems : ∀ {l k : ItemList} {is : List Item}, R (.list l) (.list k) →
    List.Forall₂ R.ofItem l.items is → R (.list l) (.list { k with items := is })
  children : ∀ {i j : Item}, R (.item i) (.item j) → List.Forall₂ R i.children j.children
  withChildren : ∀ {i j : Item} {ns : List Node}, R (.item i) (.item j) →
    List.Forall₂ R i.children ns → R (.item i) (.item { j with children := ns })
  transform : ∀ {n m rule}, R n m → engine.ruleFor n.kind = some rule →
    Agree (fun a _ => R n a) (rule.transform c m) (rule.transform c n)
  root : ∀ {d m rule}, engine.ruleFor .document = some rule →
    rule.transform c (.document d) = .ok m → m = .document d

/-- What may have become of a node that is nested no deeper than a bound. -/
def Fate.Within (R : Fate) (depth : Nat) (n m : Node) : Prop := R n m ∧ m.height ≤ depth

variable {engine : Engine} {c : Config} {R : Fate}

/-- Applying the rule for a node notes it and comes to what the rule makes of the node. -/
theorem run_dispatch {n : Node} {rule : Rule} (hrule : engine.ruleFor n.kind = some rule)
    (log : List Application) :
    (engine.dispatch c n).run.run log = (rule.transform c n, log ++ [⟨rule, n.kind⟩]) := by
  rw [dispatch, hrule]
  dsimp only
  cases rule.transform c n with
  | ok m => rfl
  | error e => rfl

theorem ofSteps_steps_of_some {n : Node} {rule : Rule} (hrule : engine.ruleFor n.kind = some rule) :
    Course.ofSteps c (engine.steps [n]) (.ok ()) =
      ((fun _ => ()) <$> rule.transform c n, [⟨rule, n.kind⟩]) := by
  have hsteps : engine.steps [n] = [(rule, n)] := by simp [steps, hrule]
  rw [hsteps, Course.ofSteps, Step.firstFailure, Step.upToFailure_cons, List.findSome?_cons,
    Step.failure, Rule.failureOn]
  cases rule.transform c n with
  | ok m => rfl
  | error e => rfl

/-- Applying the rule for a node takes the course of the step for a node of its kind on which the
rule comes to the same. -/
theorem takes_dispatch_of_agree {n m : Node} {P : Node → Prop} (hkind : m.kind = n.kind)
    (hnone : engine.ruleFor n.kind = none → P m)
    (hsome : ∀ rule, engine.ruleFor n.kind = some rule →
      Agree (fun a _ => P a) (rule.transform c m) (rule.transform c n)) :
    Takes (engine.dispatch c m) (.ofSteps c (engine.steps [n]) (.ok ())) P := by
  cases hrule : engine.ruleFor n.kind with
  | none =>
      have hsteps : engine.steps [n] = [] := by simp [steps, hrule]
      rw [dispatch, hkind, hrule, hsteps]
      exact takes_pure (hnone hrule)
  | some rule =>
      intro log
      rw [run_dispatch (hkind ▸ hrule), ofSteps_steps_of_some hrule, hkind]
      exact ⟨rfl, (hsome rule hrule).map_right⟩

/-- Applying the rule for a node takes the course of the step for what the node was before. -/
theorem Allows.takes_dispatch (h : engine.Allows c R) {n m : Node} {depth : Nat}
    (hm : R.Within depth n m) :
    Takes (engine.dispatch c m) (.ofSteps c (engine.steps [n]) (.ok ())) (R.Within depth n) := by
  refine takes_dispatch_of_agree (h.kind hm.1) (fun _ => hm) fun rule hrule => ?_
  refine (h.transform hm.1 hrule).mono fun m' _ hm' hR => ?_
  exact ⟨hR, Nat.le_trans (rule.height_transform hm') hm.2⟩

theorem Allows.takes_dispatch_root (h : engine.Allows c R) (d : Document) :
    Takes (engine.dispatch c (.document d)) (.ofSteps c (engine.steps [.document d]) (.ok ()))
      (· = .document d) := by
  refine takes_dispatch_of_agree rfl (fun _ => rfl) fun rule hrule => ?_
  cases hroot : rule.transform c (.document d) with
  | ok m => exact .ok (h.root hrule hroot)
  | error e => exact .error e

/-! ### Heights of what is visited -/

theorem height_le_heightAll {is : List Item} {i : Item} (hi : i ∈ is) :
    i.height ≤ Item.heightAll is := by
  induction is with
  | nil => cases hi
  | cons j rest ih =>
      rw [Item.heightAll]
      rcases List.mem_cons.mp hi with rfl | hi
      · exact Nat.le_max_left _ _
      · exact Nat.le_trans (ih hi) (Nat.le_max_right _ _)

theorem height_lt_of_mem_items {l : ItemList} {i : Item} (hi : i ∈ l.items) :
    i.height < l.height := by
  obtain ⟨ordered, marker, items⟩ := l
  exact Nat.lt_succ_of_le (height_le_heightAll hi)

theorem height_le_nodes {ns : List Node} {n : Node} (hn : n ∈ ns) :
    n.height ≤ Node.heightAll ns := by
  induction ns with
  | nil => cases hn
  | cons m rest ih =>
      rw [Node.heightAll]
      rcases List.mem_cons.mp hn with rfl | hn
      · exact Nat.le_max_left _ _
      · exact Nat.le_trans (ih hn) (Nat.le_max_right _ _)

theorem height_lt_of_mem_children {i : Item} {n : Node} (hn : n ∈ i.children) :
    n.height < i.height := by
  obtain ⟨marker, text, children⟩ := i
  exact Nat.lt_succ_of_le (height_le_nodes hn)

/-! ### The walk -/

/-- Visiting with a given depth takes the course of a node and those below it. -/
def Visits (engine : Engine) (c : Config) (R : Fate) (depth : Nat) : Prop :=
  ∀ {n m : Node}, R n m → m.height < depth →
    Takes (engine.visit c depth m) (engine.courseAll c (n :: n.descendants.map (·.node))) (R n)

theorem Allows.takes_items (h : engine.Allows c R) {depth : Nat} (ih : engine.Visits c R depth)
    {is js : List Item} (hitems : List.Forall₂ R.ofItem is js)
    (hheight : ∀ j ∈ js, j.height < depth) :
    Takes (js.mapM fun item => do
        match ← engine.visit c depth (.item item) with
        | .item item => pure item
        | _ => pure item)
      (engine.courseAll c ((Item.preorder is).map (·.node))) (List.Forall₂ R.ofItem is) := by
  induction hitems with
  | nil => exact takes_pure .nil
  | @cons i j is js hij _ ihitems =>
      rw [List.forall_mem_cons] at hheight
      rw [List.mapM_cons, Item.preorder, List.map_cons, List.map_append, ← List.cons_append,
        courseAll_append]
      have hvisit := ih hij hheight.1
      refine (hvisit.bind_pure (Q := R.ofItem i) fun m hm => ?_).bind fun k hk => ?_
      · have hkind := h.kind hm
        cases m with
        | item k => exact takes_pure hm
        | document _ | heading _ | paragraph _ | list _ | code _ | text _ => cases hkind
      · exact (ihitems hheight.2).bind_pure fun ks hks => takes_pure (.cons hk hks)

theorem takes_siblings {visit : Node → Pass Node} (parent : NodeKind) {ns ms : List Node}
    (hnodes : List.Forall₂ R ns ms)
    (hvisit : ∀ n, ∀ m ∈ ms, R n m →
      Takes (visit m) (engine.courseAll c (n :: n.descendants.map (·.node))) (R n)) :
    Takes (ms.mapM visit) (engine.courseAll c ((Node.preorder parent ns).map (·.node)))
      (List.Forall₂ R ns) := by
  induction hnodes with
  | nil => exact takes_pure .nil
  | cons hnm _ ih =>
      rw [List.mapM_cons, Node.preorder, List.map_cons, List.map_append, ← List.cons_append,
        courseAll_append]
      refine (hvisit _ _ List.mem_cons_self hnm).bind fun k hk => ?_
      have hrest := ih fun n m hm => hvisit n m (List.mem_cons_of_mem _ hm)
      exact hrest.bind_pure fun ks hks => takes_pure (.cons hk hks)

theorem Allows.takes_inside (h : engine.Allows c R) {depth : Nat} (ih : engine.Visits c R depth)
    {n m : Node} (hm : R.Within depth n m) (hn : n.kind ≠ .document) :
    Takes (engine.inside c depth m) (engine.courseAll c (n.descendants.map (·.node))) (R n) := by
  obtain ⟨hR, hheight⟩ := hm
  have hkind := h.kind hR
  cases n with
  | document _ => exact absurd rfl hn
  | list l =>
      cases m with
      | list k =>
          obtain ⟨ordered, marker, items⟩ := l
          have hbelow : ∀ j ∈ k.items, j.height < depth := fun j hj =>
            Nat.lt_of_lt_of_le (height_lt_of_mem_items hj) hheight
          exact (h.takes_items ih (h.items hR) hbelow).bind_pure fun is his =>
            takes_pure (h.withItems hR his)
      | document _ | heading _ | paragraph _ | item _ | code _ | text _ => cases hkind
  | item i =>
      cases m with
      | item j =>
          obtain ⟨marker, text, children⟩ := i
          have hbelow := takes_siblings .item (h.children hR) fun n m hm hnm =>
            ih hnm (Nat.lt_of_lt_of_le (height_lt_of_mem_children hm) hheight)
          exact hbelow.bind_pure fun ns hns => takes_pure (h.withChildren hR hns)
      | document _ | heading _ | paragraph _ | list _ | code _ | text _ => cases hkind
  | heading _ | paragraph _ | code _ | text _ =>
      cases m with
      | heading _ | paragraph _ | code _ | text _ => exact takes_pure hR
      | document _ | list _ | item _ => cases hkind

/-- Visiting a node takes the course of the node and those below it. -/
theorem Allows.visits (h : engine.Allows c R) (depth : Nat) : engine.Visits c R depth := by
  induction depth with
  | zero => exact fun _ hheight => absurd hheight (Nat.not_lt_zero _)
  | succ depth ih =>
      intro n m hm hheight
      have hkind := h.kind hm
      rw [courseAll, courseOf]
      by_cases hn : n.kind = .document
      · rw [if_pos hn]
        cases m with
        | document _ => exact fun log => ⟨(List.append_nil log).symm, .error _⟩
        | heading _ | paragraph _ | list _ | item _ | code _ | text _ =>
            rw [hn] at hkind
            cases hkind
      · rw [if_neg hn, visit_succ (by rwa [hkind])]
        exact (h.takes_dispatch ⟨hm, Nat.le_of_lt_succ hheight⟩).bind fun m' hm' =>
          h.takes_inside ih hm' hn

/-- A pass takes the course that was foretold. -/
theorem Allows.takes_pass (h : engine.Allows c R) (d : Document) :
    Takes (engine.pass c d) (engine.foretold c d) (List.Forall₂ R d) := by
  have hroots : Takes (d.mapM fun n => engine.visit c (n.height + 1) n)
      (engine.courseAll c (d.preorder.map (·.node))) (List.Forall₂ R d) :=
    takes_siblings .document (List.forall₂_same.mpr fun n _ => h.refl n) fun n m _ hnm =>
      h.visits _ hnm (Nat.lt_succ_self _)
  have hany : (d.preorder.map (·.node)).any (·.kind == .document) =
      d.preorder.any (·.node.kind == .document) := List.any_map
  rw [foretold, due, ofSteps_steps_cons, ← hany, ← courseAll_eq_ofSteps]
  refine (h.takes_dispatch_root d).bind fun m hm => ?_
  subst hm
  exact hroots

theorem Allows.run_eq (h : engine.Allows c R) (d : Document) :
    (engine.run c d).2 = (engine.foretold c d).2 ∧
      Agree (fun d' _ => List.Forall₂ R d d') (engine.run c d).1 (engine.foretold c d).1 := by
  have hpass := h.takes_pass d []
  rwa [List.nil_append] at hpass

/-! ### Rules that leave nodes as they are -/

theorem allows_eq (h : ∀ rule ∈ engine.rules, rule.LeavesNodes c) :
    engine.Allows c fun n m => n = m where
  refl _ := rfl
  kind := by
    rintro n m rfl
    rfl
  items := by
    rintro l k hlk
    cases hlk
    exact List.forall₂_same.mpr fun _ _ => rfl
  withItems := by
    rintro ⟨_, _, js⟩ k is hlk his
    cases hlk
    have hitems : List.Forall₂ (· = ·) js is := his.imp fun i j hij => Node.item.inj hij
    rw [List.forall₂_eq_eq_eq] at hitems
    rw [hitems]
  children := by
    rintro i j hij
    cases hij
    exact List.forall₂_same.mpr fun _ _ => rfl
  withChildren := by
    rintro ⟨_, _, _⟩ j ns hij hns
    cases hij
    rw [List.forall₂_eq_eq_eq] at hns
    subst hns
    rfl
  transform := by
    rintro n m rule rfl hrule
    cases hn : rule.transform c n with
    | ok m => exact .ok (h rule (List.mem_of_find?_eq_some hrule) n m hn).symm
    | error e => exact .error e
  root := fun hrule hroot => h _ (List.mem_of_find?_eq_some hrule) _ _ hroot

/-- Nothing becomes of a document in a pass of rules that leave nodes as they are. -/
theorem run_eq_foretold (h : ∀ rule ∈ engine.rules, rule.LeavesNodes c) (d : Document) :
    engine.run c d = ((fun _ => d) <$> (engine.foretold c d).1, (engine.foretold c d).2) := by
  obtain ⟨hlog, hagree⟩ := (allows_eq h).run_eq d
  refine Prod.ext (Agree.eq_map (hagree.mono fun d' _ _ hd => ?_)) hlog
  rw [List.forall₂_eq_eq_eq] at hd
  exact hd.symm

/-! ### The standard rules and others that look at kinds -/

/-- A rule lets nodes of one frame become nodes of that frame, or fails on all of them alike. -/
def KeepsFrames (c : Config) (rule : Rule) : Prop :=
  ∀ n m, n.frame = m.frame →
    Agree (fun a _ => n.frame = a.frame) (rule.transform c m) (rule.transform c n)

/-- A rule that transforms leaves, and others not, keeps frames. -/
theorem keepsFrames_of_ok {rule : Rule} {f : Node → Node}
    (hrule : ∀ n, rule.transform c n = .ok (f n)) (hf : ∀ n, (f n).frame = n.frame) :
    KeepsFrames c rule := by
  intro n m hnm
  rw [hrule, hrule]
  exact .ok (hnm.trans (hf m).symm)

/-- A rule that leaves nodes as they are and fails by their kinds keeps frames. -/
theorem keepsFrames_of_leavesNodes {rule : Rule} (hleaves : rule.LeavesNodes c)
    (hkinds : rule.JudgesKinds c) : KeepsFrames c rule := by
  intro n m hnm
  have hfailure := hkinds n m (Node.kind_eq_of_frame_eq hnm)
  rw [Rule.failureOn, Rule.failureOn] at hfailure
  cases hn : rule.transform c n with
  | ok n' =>
      cases hm : rule.transform c m with
      | ok m' =>
          rw [hleaves m m' hm]
          exact .ok hnm
      | error e => simp [hn, hm] at hfailure
  | error e =>
      cases hm : rule.transform c m with
      | ok m' => simp [hn, hm] at hfailure
      | error e' =>
          simp only [hn, hm, Option.some.injEq] at hfailure
          rw [hfailure]
          exact .error e'

/-- The list rule keeps frames. -/
theorem keepsFrames_list (c : Config) : KeepsFrames c Rule.list := by
  intro n m hnm
  have hkind := Node.kind_eq_of_frame_eq hnm
  show Agree _ (Rule.listStep c m) (Rule.listStep c n)
  cases n with
  | list l =>
      cases m with
      | list k =>
          rw [Rule.listStep, Rule.listStep, ItemList.tidy_eq, ItemList.tidy_eq,
            ItemList.check_eq_of_frame_eq l k hnm]
          cases Placed.check k.descendants with
          | ok _ => exact .ok (hnm.trans (k.frame_normalized c).symm)
          | error e => exact .error e
      | document _ | heading _ | paragraph _ | item _ | code _ | text _ => cases hkind
  | item i =>
      cases m with
      | item j =>
          rw [Rule.listStep, Rule.listStep, Item.tidy_eq, Item.tidy_eq,
            Item.check_eq_of_frame_eq i j hnm]
          cases Placed.check j.descendants with
          | ok _ => exact .ok (hnm.trans (j.frame_normalized c).symm)
          | error e => exact .error e
      | document _ | heading _ | paragraph _ | list _ | code _ | text _ => cases hkind
  | document _ | heading _ | paragraph _ | code _ | text _ =>
      cases m with
      | document _ | heading _ | paragraph _ | code _ | text _ => exact .ok hnm
      | list _ | item _ => cases hkind

/-- Every standard rule keeps frames. -/
theorem keepsFrames_standard (c : Config) : ∀ rule ∈ Rule.standard, KeepsFrames c rule := by
  simp only [Rule.standard, List.forall_mem_cons, List.not_mem_nil, false_implies, implies_true,
    and_true]
  refine ⟨?heading, ?paragraph, keepsFrames_list c, ?code, ?inline, ?whitespace⟩
  case heading => exact keepsFrames_of_ok (fun _ => rfl) fun n => by cases n <;> rfl
  case paragraph => exact keepsFrames_of_ok (fun _ => rfl) fun n => by cases n <;> rfl
  case code => exact keepsFrames_of_ok (fun _ => rfl) fun n => by cases n <;> rfl
  case inline => exact keepsFrames_of_ok (fun _ => rfl) fun n => by cases n <;> rfl
  case whitespace =>
    refine keepsFrames_of_ok (fun _ => rfl) fun n => ?_
    rw [Rule.whitespaceStep]
    split
    · cases n <;> rfl
    · rfl

theorem allows_frame (h : ∀ rule ∈ engine.rules, KeepsFrames c rule)
    (hroot : ∀ rule ∈ engine.rules, ∀ d m,
      rule.transform c (.document d) = .ok m → m = .document d) :
    engine.Allows c fun n m => n.frame = m.frame where
  refl _ := rfl
  kind h := (Node.kind_eq_of_frame_eq h).symm
  items := by
    rintro ⟨_, _, is⟩ ⟨_, _, js⟩ h
    exact Item.frames_eq_iff.mp (congrArg Frame.nested h)
  withItems := by
    rintro ⟨_, _, is⟩ ⟨_, _, js⟩ ks _ his
    exact congrArg (Frame.node .list) (Item.frames_eq_iff.mpr his)
  children := by
    rintro ⟨_, _, ns⟩ ⟨_, _, ms⟩ h
    exact Node.frames_eq_iff.mp (congrArg Frame.nested h)
  withChildren := by
    rintro ⟨_, _, ns⟩ ⟨_, _, ms⟩ ks _ hns
    exact congrArg (Frame.node .item) (Node.frames_eq_iff.mpr hns)
  transform hnm hrule := h _ (List.mem_of_find?_eq_some hrule) _ _ hnm
  root hrule := hroot _ (List.mem_of_find?_eq_some hrule) _ _

theorem root_standard (c : Config) : ∀ rule ∈ Rule.standard, ∀ d m,
    rule.transform c (.document d) = .ok m → m = .document d := by
  simp only [Rule.standard, List.forall_mem_cons, List.not_mem_nil, false_implies, implies_true,
    and_true]
  refine ⟨?heading, ?paragraph, ?list, ?code, ?inline, ?whitespace⟩
  case whitespace =>
    intro d m h
    simp only [Rule.whitespace, Rule.ofLeaf, Rule.whitespaceStep, Rule.trimStep, ite_self] at h
    cases h
    rfl
  all_goals
    intro d m h
    cases h
    rfl

theorem mem_rules_register {rules : List Rule} {rule : Rule} :
    rule ∈ (rules.foldl register engine).rules ↔ rule ∈ engine.rules ∨ rule ∈ rules := by
  rw [rules_register, List.mem_mergeSort, List.mem_append]

theorem mem_rules_standard {rule : Rule} : rule ∈ standard.rules ↔ rule ∈ Rule.standard := by
  rw [standard, mem_rules_register]
  simp [empty]

/-- A pass of the standard rules, and of others next to them that leave nodes as they are and fail
by their kinds, comes to what was foretold. -/
theorem run_standard_eq_foretold {rules : List Rule}
    (h : ∀ rule ∈ rules, rule.LeavesNodes c ∧ rule.JudgesKinds c) (d : Document) :
    ((fun _ => ()) <$> ((rules.foldl register standard).run c d).1,
        ((rules.foldl register standard).run c d).2) =
      (rules.foldl register standard).foretold c d := by
  have hframes : ∀ rule ∈ (rules.foldl register standard).rules, KeepsFrames c rule := by
    intro rule hrule
    rcases mem_rules_register.mp hrule with hrule | hrule
    · exact keepsFrames_standard c rule (mem_rules_standard.mp hrule)
    · exact keepsFrames_of_leavesNodes (h rule hrule).1 (h rule hrule).2
  have hroot : ∀ rule ∈ (rules.foldl register standard).rules, ∀ d m,
      rule.transform c (.document d) = .ok m → m = .document d := by
    intro rule hrule
    rcases mem_rules_register.mp hrule with hrule | hrule
    · exact root_standard c rule (mem_rules_standard.mp hrule)
    · exact fun d m => (h rule hrule).1 (.document d) m
  obtain ⟨hlog, hagree⟩ := (allows_frame hframes hroot).run_eq d
  exact Prod.ext hagree.map_left hlog

/-- Rules stand in the order of a stable sort of all that were registered, by falling priority.
Where they leave nodes as they are, a pass applies the first rule that claims a node to each node in
preorder, up to the first failure and before the first nested document, and comes to that failure if
there is one; and so it does with the standard rules beneath, if the others fail by kinds. -/
theorem first_match_in_preorder (c : Config) (rules : List Rule) (d : Document) :
    (rules.foldl register empty).rules = rules.mergeSort Rule.precedes ∧
      (rules.foldl register standard).rules =
        (Rule.standard ++ rules).mergeSort Rule.precedes ∧
      ((∀ rule ∈ rules, rule.LeavesNodes c) →
        let engine := rules.foldl register empty
        engine.run c d = ((fun _ => d) <$> (engine.foretold c d).1, (engine.foretold c d).2)) ∧
      ((∀ rule ∈ rules, rule.LeavesNodes c ∧ rule.JudgesKinds c) →
        let engine := rules.foldl register standard
        ((fun _ => ()) <$> (engine.run c d).1, (engine.run c d).2) = engine.foretold c d) := by
  refine ⟨rules_register empty rules, ?_, fun h => ?_, fun h => run_standard_eq_foretold h d⟩
  · rw [standard, ← List.foldl_append]
    exact rules_register empty _
  · refine run_eq_foretold (fun rule hrule => h rule ?_) d
    simpa [mem_rules_register, empty] using hrule

def watchers : List Rule :=
  [.probe "rest" 1 NodeKind.all none, .probe "lists" 85 [.list, .item] none,
    .probe "strict" 75 [.code] (some "boom")]

def watched : Document :=
  [.heading ⟨1, ['T'], .atx⟩,
    .list ⟨false, ['*'], [⟨['*'], ['o'], [.list ⟨true, ['.'], [⟨['1', '.'], ['i'], []⟩]⟩]⟩]⟩,
    .code ⟨[], ['x'], true, .backticks⟩, .text ['t']]

/-- The nested list and its item are seen behind the item they stand in, and nothing is seen behind
the code on which a rule fails. -/
theorem watchers_first_match :
    (∀ rule ∈ watchers, rule.LeavesNodes {} ∧ rule.JudgesKinds {}) ∧
      (((watchers.foldl register empty).run {} watched).2.map fun a => (a.rule.name, a.kind)) =
        [("rest", .document), ("rest", .heading), ("lists", .list), ("lists", .item),
          ("lists", .list), ("lists", .item), ("strict", .code)] ∧
      (((watchers.foldl register standard).run {} watched).2.map fun a => (a.rule.name, a.kind)) =
        [("whitespace", .document), ("heading", .heading), ("lists", .list), ("lists", .item),
          ("lists", .list), ("lists", .item), ("strict", .code)] := by
  have hwatchers : ∀ rule ∈ watchers, rule.LeavesNodes {} ∧ rule.JudgesKinds {} := by
    intro rule hrule
    simp only [watchers, List.mem_cons, List.not_mem_nil, or_false] at hrule
    rcases hrule with rfl | rfl | rfl
    all_goals exact ⟨Rule.leavesNodes_probe _ _ _ _ _, Rule.judgesKinds_probe _ _ _ _ _⟩
  obtain ⟨_, _, hempty, hstandard⟩ := first_match_in_preorder {} watchers watched
  refine ⟨hwatchers, ?_, ?_⟩
  · rw [hempty fun rule hrule => (hwatchers rule hrule).1]
    rfl
  · have hlog := congrArg Prod.snd (hstandard hwatchers)
    simp only at hlog
    rw [hlog]
    rfl

end Engine

end Tidymark
