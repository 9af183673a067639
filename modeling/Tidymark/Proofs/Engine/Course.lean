import Tidymark.Engine
import Tidymark.Proofs.Document.Preorder

/-!
# Courses

The course of a pass is what it comes to and what it applies on the way.  The
course due in a document is read off the document alone: its nodes in preorder,
each with the first rule that claims it, up to the first failure and before the
first document that is nested.
-/

namespace Tidymark

namespace Rule

/-- Why a rule fails on a node, if it does. -/
def failureOn (rule : Rule) (c : Config) (n : Node) : Option Failure :=
  match rule.transform c n with
  | .ok _ => none
  | .error e => some e

/-- A rule leaves every node as it is on which it does not fail. -/
def LeavesNodes (rule : Rule) (c : Config) : Prop :=
  ∀ n m, rule.transform c n = .ok m → m = n

/-- Whether and why a rule fails is told from the kind of a node. -/
def JudgesKinds (rule : Rule) (c : Config) : Prop :=
  ∀ n m : Node, n.kind = m.kind → rule.failureOn c n = rule.failureOn c m

theorem leavesNodes_probe (name : String) (priority : Int) (kinds : List NodeKind)
    (reason : Option String) (c : Config) :
    (probe name priority kinds reason).LeavesNodes c := by
  intro n m h
  cases reason with
  | none =>
      cases h
      rfl
  | some reason => cases h

theorem judgesKinds_probe (name : String) (priority : Int) (kinds : List NodeKind)
    (reason : Option String) (c : Config) :
    (probe name priority kinds reason).JudgesKinds c := by
  intro n m h
  cases reason with
  | none => rfl
  | some reason => simp only [failureOn, probe, h]

end Rule

/-- A rule and a node it is to be applied to. -/
abbrev Step := Rule × Node

namespace Step

def failure (c : Config) (step : Step) : Option Failure := step.1.failureOn c step.2

def application (step : Step) : Application := ⟨step.1, step.2.kind⟩

/-- Why the first step that fails does so. -/
def firstFailure (c : Config) (steps : List Step) : Option Failure := steps.findSome? (failure c)

/-- The steps up to the first that fails, which is the last of them. -/
def upToFailure (c : Config) (steps : List Step) : List Step :=
  steps.take (steps.findIdx (fun step => (step.failure c).isSome) + 1)

theorem upToFailure_nil (c : Config) : upToFailure c [] = [] := rfl

theorem upToFailure_cons (c : Config) (step : Step) (steps : List Step) :
    upToFailure c (step :: steps) =
      step :: if (step.failure c).isSome then [] else upToFailure c steps := by
  cases h : (step.failure c).isSome with
  | true => simp [upToFailure, List.findIdx_cons, h]
  | false => simp [upToFailure, List.findIdx_cons, h]

end Step

/-- What a pass comes to and what it applies on the way. -/
abbrev Course := Except Failure Unit × List Application

namespace Course

def done : Course := (.ok (), [])

/-- One course behind another, unless the other fails. -/
def andThen (first second : Course) : Course :=
  match first.1 with
  | .ok _ => (second.1, first.2 ++ second.2)
  | .error e => (.error e, first.2)

theorem andThen_assoc (a b c : Course) : (a.andThen b).andThen c = a.andThen (b.andThen c) := by
  obtain ⟨outcomeA, logA⟩ := a
  obtain ⟨outcomeB, logB⟩ := b
  cases outcomeA with
  | error e => rfl
  | ok _ =>
      cases outcomeB with
      | error e => rfl
      | ok _ => simp [andThen, List.append_assoc]

/-- The course of a list of steps, which ends with a given outcome unless one of them fails. -/
def ofSteps (c : Config) (steps : List Step) (last : Except Failure Unit) : Course :=
  (match Step.firstFailure c steps with
    | some e => .error e
    | none => last,
    (Step.upToFailure c steps).map Step.application)

theorem ofSteps_cons (c : Config) (step : Step) (steps : List Step) (last : Except Failure Unit) :
    ofSteps c (step :: steps) last =
      (ofSteps c [step] (.ok ())).andThen (ofSteps c steps last) := by
  simp only [ofSteps, Step.firstFailure, Step.upToFailure_cons, Step.upToFailure_nil,
    List.findSome?_cons, List.findSome?_nil]
  cases h : step.failure c with
  | none => rfl
  | some e => rfl

end Course

namespace Engine

/-- The steps for those nodes of a list that a rule claims, each by the first rule that does. -/
def steps (engine : Engine) (ns : List Node) : List Step :=
  ns.filterMap fun n => (engine.ruleFor n.kind).map fun rule => (rule, n)

/-- What fails a pass that comes to a nested document. -/
def nestedFailure : Failure := .rejected "engine" .document "documents cannot be nested"

/-- The steps due in a document: the root first and then its nodes in preorder, before the first
document among them. -/
def due (engine : Engine) (d : Document) : List Step :=
  engine.steps (.document d :: (d.preorder.map (·.node)).takeWhile (·.kind != .document))

/-- The course that a pass over a document should take. -/
def foretold (engine : Engine) (c : Config) (d : Document) : Course :=
  .ofSteps c (engine.due d)
    (if d.preorder.any (·.node.kind == .document) then .error nestedFailure else .ok ())

def courseOf (engine : Engine) (c : Config) (n : Node) : Course :=
  if n.kind = .document then (.error nestedFailure, [])
  else .ofSteps c (engine.steps [n]) (.ok ())

def courseAll (engine : Engine) (c : Config) : List Node → Course
  | [] => .done
  | n :: rest => (engine.courseOf c n).andThen (courseAll engine c rest)

theorem courseAll_append (engine : Engine) (c : Config) (ns ms : List Node) :
    engine.courseAll c (ns ++ ms) = (engine.courseAll c ns).andThen (engine.courseAll c ms) := by
  induction ns with
  | nil => rfl
  | cons n rest ih => rw [List.cons_append, courseAll, courseAll, ih, Course.andThen_assoc]

theorem ofSteps_steps_cons (engine : Engine) (c : Config) (n : Node) (ns : List Node)
    (last : Except Failure Unit) :
    Course.ofSteps c (engine.steps (n :: ns)) last =
      (Course.ofSteps c (engine.steps [n]) (.ok ())).andThen
        (Course.ofSteps c (engine.steps ns) last) := by
  cases h : engine.ruleFor n.kind with
  | none =>
      have hnone (ms : List Node) : engine.steps (n :: ms) = engine.steps ms := by
        simp [steps, h]
      rw [hnone, hnone]
      rfl
  | some rule =>
      have hsome (ms : List Node) : engine.steps (n :: ms) = (rule, n) :: engine.steps ms := by
        simp [steps, h]
      rw [hsome, hsome, Course.ofSteps_cons]
      rfl

/-- The course of coming to nodes is that of the steps before the first document among them. -/
theorem courseAll_eq_ofSteps (engine : Engine) (c : Config) (ns : List Node) :
    engine.courseAll c ns =
      .ofSteps c (engine.steps (ns.takeWhile (·.kind != .document)))
        (if ns.any (·.kind == .document) then .error nestedFailure else .ok ()) := by
  induction ns with
  | nil => rfl
  | cons n rest ih =>
      by_cases hn : n.kind = .document
      · rw [courseAll, courseOf, if_pos hn, List.takeWhile_cons_of_neg (by simp [hn]),
          List.any_cons, if_pos (by simp [hn])]
        rfl
      · have hany : (n :: rest).any (·.kind == .document) = rest.any (·.kind == .document) := by
          simp [hn]
        rw [courseAll, courseOf, if_neg hn, ih, List.takeWhile_cons_of_pos (by simp [hn]), hany,
          ← ofSteps_steps_cons]

end Engine

/-! ## Passes that take a course -/

/-- Two outcomes fail alike or yield related results. -/
inductive Agree {α β : Type} (P : α → β → Prop) : Except Failure α → Except Failure β → Prop where
  | ok {a : α} {b : β} (h : P a b) : Agree P (.ok a) (.ok b)
  | error (e : Failure) : Agree P (.error e) (.error e)

namespace Agree

variable {α β : Type} {P Q : α → β → Prop} {x : Except Failure α} {y : Except Failure β}

theorem mono (h : Agree P x y) (hPQ : ∀ a b, x = .ok a → P a b → Q a b) : Agree Q x y := by
  cases h with
  | ok hP => exact .ok (hPQ _ _ rfl hP)
  | error e => exact .error e

theorem eq_map {a : α} (h : Agree (fun b _ => b = a) x y) : x = (fun _ => a) <$> y := by
  cases h with
  | ok hb =>
      rw [hb]
      rfl
  | error e => rfl

theorem map_left {R : α → Unit → Prop} {z : Except Failure Unit} (h : Agree R x z) :
    (fun _ => ()) <$> x = z := by
  cases h with
  | ok _ => rfl
  | error e => rfl

theorem map_right {R : α → Prop} (h : Agree (fun a _ => R a) x y) :
    Agree (fun a _ => R a) x ((fun _ => ()) <$> y) := by
  cases h with
  | ok hR => exact .ok hR
  | error e => exact .error e

end Agree

namespace Pass

variable {α β : Type}

/-- A pass takes a course, whatever was applied before it, and what it yields has a property. -/
def Takes (m : Pass α) (course : Course) (P : α → Prop) : Prop :=
  ∀ log, (m.run.run log).2 = log ++ course.2 ∧
    Agree (fun a _ => P a) (m.run.run log).1 course.1

theorem takes_pure {a : α} {P : α → Prop} (h : P a) : Takes (pure a) .done P :=
  fun log => ⟨(List.append_nil log).symm, .ok h⟩

theorem Takes.bind {m : Pass α} {f : α → Pass β} {first second : Course} {P : α → Prop}
    {Q : β → Prop} (hm : Takes m first P) (hf : ∀ a, P a → Takes (f a) second Q) :
    Takes (m >>= f) (first.andThen second) Q := by
  intro log
  obtain ⟨hlog, hagree⟩ := hm log
  obtain ⟨outcome, noted⟩ := first
  rw [ExceptT.run_bind, StateT.run_bind]
  cases hrun : m.run.run log with
  | mk out log' =>
      rw [hrun] at hlog hagree
      cases hagree with
      | error e => exact ⟨hlog, .error e⟩
      | ok h =>
          obtain ⟨hlog', hagree'⟩ := hf _ h log'
          simp only at hlog
          subst hlog
          exact ⟨hlog'.trans (List.append_assoc log noted second.2), hagree'⟩

theorem Takes.bind_pure {m : Pass α} {f : α → Pass β} {course : Course} {P : α → Prop}
    {Q : β → Prop} (hm : Takes m course P) (hf : ∀ a, P a → Takes (f a) .done Q) :
    Takes (m >>= f) course Q := by
  have hdone : course.andThen .done = course := by
    obtain ⟨outcome, noted⟩ := course
    cases outcome <;> simp [Course.andThen, Course.done]
  rw [← hdone]
  exact hm.bind hf

end Pass

end Tidymark
