import Tidymark.Rule

/-!
# The rule engine

An engine holds rules by falling priority, earlier ones first among equals.
A pass visits the nodes of a document in preorder and applies to each the
first rule that claims its kind.  The first failure ends the pass.
-/

namespace Tidymark

/-- Rules by falling priority. -/
structure Engine where
  rules : List Rule
  sorted : rules.Pairwise (fun a b => b.priority ≤ a.priority) := by exact .nil

/-- A rule applied to a node of some kind. -/
structure Application where
  rule : Rule
  kind : NodeKind

/-- A computation that notes what rules were applied, also when it fails. -/
abbrev Pass := ExceptT Failure (StateM (List Application))

namespace Engine

/-- Put a rule behind all that have its priority or a higher one. -/
def insertRule (rule : Rule) : List Rule → List Rule
  | [] => [rule]
  | other :: rest =>
      if rule.priority ≤ other.priority then other :: insertRule rule rest
      else rule :: other :: rest

theorem mem_insertRule {rule r : Rule} {rules : List Rule} :
    r ∈ insertRule rule rules ↔ r = rule ∨ r ∈ rules := by
  induction rules with
  | nil => simp [insertRule]
  | cons other rest ih =>
      unfold insertRule
      split
      · simp only [List.mem_cons, ih]
        constructor
        · rintro (h | h | h) <;> simp [h]
        · rintro (h | h | h) <;> simp [h]
      · simp

theorem sorted_insertRule {rule : Rule} {rules : List Rule}
    (h : rules.Pairwise (fun a b => b.priority ≤ a.priority)) :
    (insertRule rule rules).Pairwise (fun a b => b.priority ≤ a.priority) := by
  induction rules with
  | nil => simp [insertRule]
  | cons other rest ih =>
      rw [List.pairwise_cons] at h
      unfold insertRule
      split
      · next hle =>
          refine List.pairwise_cons.mpr ⟨fun r hr => ?_, ih h.2⟩
          rcases mem_insertRule.mp hr with rfl | hr
          · exact hle
          · exact h.1 r hr
      · next hlt =>
          refine List.pairwise_cons.mpr ⟨fun r hr => ?_, List.pairwise_cons.mpr h⟩
          rcases List.mem_cons.mp hr with rfl | hr
          · omega
          · have := h.1 r hr
            omega

def empty : Engine where
  rules := []

def register (engine : Engine) (rule : Rule) : Engine where
  rules := insertRule rule engine.rules
  sorted := sorted_insertRule engine.sorted

def standard : Engine := Rule.standard.foldl register empty

def ruleFor (engine : Engine) (kind : NodeKind) : Option Rule :=
  engine.rules.find? (·.claims kind)

def dispatch (engine : Engine) (c : Config) (n : Node) : Pass Node :=
  match engine.ruleFor n.kind with
  | none => pure n
  | some rule => do
      modify (· ++ [⟨rule, n.kind⟩])
      match rule.transform c n with
      | .ok m => pure m
      | .error e => throw e

/-- Visit a node and those below it, which are nested less than `depth` deep. -/
def visit (engine : Engine) (c : Config) : Nat → Node → Pass Node
  | 0, n => pure n
  | _ + 1, .document _ => throw (.rejected "engine" .document "documents cannot be nested")
  | depth + 1, n => do
      match ← engine.dispatch c n with
      | .list l =>
          let items ← l.items.mapM fun item => do
            match ← visit engine c depth (.item item) with
            | .item item => pure item
            | _ => pure item
          pure (.list { l with items })
      | .item i =>
          let children ← i.children.mapM (visit engine c depth)
          pure (.item { i with children })
      | m => pure m

/-- One pass over a document: the root first, then its nodes. -/
def pass (engine : Engine) (c : Config) (d : Document) : Pass Document := do
  match ← engine.dispatch c (.document d) with
  | .document children => children.mapM fun n => visit engine c (n.height + 1) n
  | _ => pure d

/-- What a pass makes of a document, and what it applied on the way. -/
def run (engine : Engine) (c : Config) (d : Document) :
    Except Failure Document × List Application :=
  (engine.pass c d).run.run []

def format (engine : Engine) (c : Config) (d : Document) : Except Failure Document :=
  (engine.run c d).1

end Engine

end Tidymark
