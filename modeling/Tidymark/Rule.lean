import Tidymark.Document.Markers
import Tidymark.Inline.Cleanup

/-!
# Rules

A rule claims some kinds of node and transforms nodes.  Transforming keeps the
kind of a node and does not nest it deeper.  The six standard rules tidy
headings, paragraphs, lists, code blocks, inline markup and white space.
-/

namespace Tidymark

/-- A rule.  Rules with a higher priority are asked first. -/
structure Rule where
  name : String
  priority : Int
  claims : NodeKind → Bool
  /-- Whether the applications of the rule are to be reported. -/
  observed : Bool := false
  transform : Config → Node → Except Failure Node
  kind_transform : ∀ {c n m}, transform c n = .ok m → m.kind = n.kind
  height_transform : ∀ {c n m}, transform c n = .ok m → m.height ≤ n.height

namespace Rule

/-- An observed rule that changes nothing, and fails for a given reason if there is one. -/
def probe (name : String) (priority : Int) (kinds : List NodeKind) (reason : Option String) :
    Rule where
  name := name
  priority := priority
  claims kind := kinds.contains kind
  observed := true
  transform _ n :=
    match reason with
    | some reason => .error (.rejected name n.kind reason)
    | none => .ok n
  kind_transform h := by
    split at h
    · cases h
    · cases h; rfl
  height_transform h := by
    split at h
    · cases h
    · cases h; exact Nat.le_refl _

end Rule

/-- A heading with its level in range, its configured style and its text trimmed.  Only the
first two levels can be underlined. -/
def Heading.tidy (c : HeadingConfig) (h : Heading) : Heading :=
  let level := if c.normalizeLevels then max 1 (min 6 h.level) else h.level
  let style := if c.style = .setext ∧ level ≤ 2 then .setext else .atx
  ⟨level, Text.trim h.text, style⟩

/-- A paragraph text reflowed, trimmed and with its blank runs collapsed. -/
def tidyParagraph (lineWidth : Nat) (s : Text) : Text :=
  Text.collapseBlanks (Text.trim (reflow lineWidth s))

def CodeBlock.tidy (c : CodeConfig) (b : CodeBlock) : CodeBlock :=
  if b.fenced then { b with fence := c.fenceStyle } else b

namespace Rule

def ofLeaf (name : String) (priority : Int) (claims : NodeKind → Bool)
    (f : Config → Node → Node) (kind_f : ∀ c n, (f c n).kind = n.kind)
    (height_f : ∀ c n, (f c n).height = n.height) : Rule where
  name := name
  priority := priority
  claims := claims
  transform c n := .ok (f c n)
  kind_transform h := by cases h; exact kind_f _ _
  height_transform h := by cases h; exact Nat.le_of_eq (height_f _ _)

def headingStep (c : Config) : Node → Node
  | .heading h => .heading (h.tidy c.heading)
  | n => n

def heading : Rule :=
  ofLeaf "heading" 100 (· == .heading) headingStep
    (fun _ n => by cases n <;> rfl) (fun _ n => by cases n <;> rfl)

def paragraphStep (c : Config) : Node → Node
  | .paragraph s => .paragraph (tidyParagraph c.lineWidth s)
  | n => n

def paragraph : Rule :=
  ofLeaf "paragraph" 90 (· == .paragraph) paragraphStep
    (fun _ n => by cases n <;> rfl) (fun _ n => by cases n <;> rfl)

def listStep (c : Config) : Node → Except Failure Node
  | .list l => .list <$> l.tidy c.list
  | .item i => .item <$> i.tidy c.list
  | n => .ok n

theorem kind_listStep {c : Config} {n m : Node} (h : listStep c n = .ok m) : m.kind = n.kind := by
  cases n with
  | list l =>
      simp only [listStep, Functor.map, Except.map] at h
      split at h
      · cases h
      · cases h; rfl
  | item i =>
      simp only [listStep, Functor.map, Except.map] at h
      split at h
      · cases h
      · cases h; rfl
  | _ => cases h; rfl

theorem height_listStep {c : Config} {n m : Node} (h : listStep c n = .ok m) :
    m.height ≤ n.height := by
  cases n with
  | list l =>
      simp only [listStep, Functor.map, Except.map] at h
      split at h
      · cases h
      · next l' hl =>
          cases h
          simp only [Node.height, ItemList.height_tidy c.list hl]
          exact Nat.le_refl _
  | item i =>
      simp only [listStep, Functor.map, Except.map] at h
      split at h
      · cases h
      · next i' hi =>
          cases h
          simp only [Node.height, Item.height_tidy c.list hi]
          exact Nat.le_refl _
  | _ => cases h; exact Nat.le_refl _

/-- Lists get uniform markers and their items one blank between words. -/
def list : Rule where
  name := "list"
  priority := 80
  claims kind := kind == .list || kind == .item
  transform := listStep
  kind_transform := kind_listStep
  height_transform := height_listStep

def codeStep (c : Config) : Node → Node
  | .code b => .code (b.tidy c.code)
  | n => n

def code : Rule :=
  ofLeaf "code" 70 (· == .code) codeStep
    (fun _ n => by cases n <;> rfl) (fun _ n => by cases n <;> rfl)

def inlineStep (_ : Config) : Node → Node
  | .text s => .text (cleanup s)
  | .paragraph s => .paragraph (cleanup s)
  | n => n

def inline : Rule :=
  ofLeaf "inline" 60 (fun kind => kind == .text || kind == .paragraph) inlineStep
    (fun _ n => by cases n <;> rfl) (fun _ n => by cases n <;> rfl)

/-- Trailing blanks go away everywhere but in lists. -/
def trimStep : Node → Node
  | .paragraph s => .paragraph (Text.trimLineEnds s)
  | .heading h => .heading { h with text := Text.trim h.text }
  | .text s => .text (Text.trimLineEnds s)
  | .code b => .code { b with content := Text.trimLineEnds b.content }
  | n => n

def whitespaceStep (c : Config) (n : Node) : Node :=
  if c.whitespace.trimTrailingSpaces then trimStep n else n

def whitespace : Rule :=
  ofLeaf "whitespace" 10 (fun _ => true) whitespaceStep
    (fun _ n => by unfold whitespaceStep; split <;> cases n <;> rfl)
    (fun _ n => by unfold whitespaceStep; split <;> cases n <;> rfl)

/-- The rules of a formatting run, as they are registered. -/
def standard : List Rule := [heading, paragraph, list, code, inline, whitespace]

end Rule

end Tidymark
