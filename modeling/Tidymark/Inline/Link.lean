import Tidymark.Text.Piece

/-!
# Link constructs

A link construct is `[label](destination)`, with a `!` before it if it is an
image.  The label holds no closing bracket and the destination no closing
parenthesis; nothing else is asked of them, so both may span lines.
-/

namespace Tidymark

namespace Text

def splitAt? (d : Char) : Text → Option (Text × Text)
  | [] => none
  | c :: s => if c = d then some ([], s) else (splitAt? d s).map fun (a, b) => (c :: a, b)

theorem splitAt?_eq_some_iff {d : Char} {s a b : Text} :
    splitAt? d s = some (a, b) ↔ s = a ++ d :: b ∧ d ∉ a := by
  induction s generalizing a with
  | nil => simp [splitAt?]
  | cons c s ih =>
      unfold splitAt?
      split
      · next h =>
          subst h
          cases a with
          | nil => simp [eq_comm]
          | cons x a =>
              simp only [Option.some.injEq, Prod.mk.injEq, List.cons_append, List.cons.injEq,
                List.mem_cons, not_or]
              constructor
              · rintro ⟨h, _⟩; cases h
              · rintro ⟨⟨rfl, _⟩, h, _⟩; exact absurd rfl h
      · next h =>
          cases a with
          | nil =>
              simp only [Option.map_eq_some_iff, Prod.mk.injEq, Prod.exists, List.nil_append,
                List.cons.injEq, List.not_mem_nil, not_false_eq_true, and_true]
              constructor
              · rintro ⟨x, y, _, hx, _⟩; cases hx
              · rintro ⟨rfl, _⟩; exact absurd rfl h
          | cons x a =>
              simp only [Option.map_eq_some_iff, Prod.mk.injEq, Prod.exists, List.cons_append,
                List.cons.injEq, List.mem_cons, not_or]
              constructor
              · rintro ⟨a', b', hs, ⟨rfl, rfl⟩, rfl⟩
                obtain ⟨rfl, hd⟩ := ih.mp hs
                exact ⟨⟨rfl, rfl⟩, Ne.symm h, hd⟩
              · rintro ⟨⟨rfl, rfl⟩, _, hd⟩
                exact ⟨a, b, ih.mpr ⟨rfl, hd⟩, ⟨rfl, rfl⟩, rfl⟩

end Text

/-- A link construct: whether it is an image, its label and its destination. -/
structure Link where
  image : Bool
  label : Text
  destination : Text
  deriving DecidableEq, Repr

namespace Link

def source (l : Link) : Text :=
  (if l.image then ['!'] else []) ++ '[' :: l.label ++ ']' :: '(' :: l.destination ++ [')']

/-- Read a label and a destination after an opening bracket. -/
def readAfterBracket? (image : Bool) (s : Text) : Option (Link × Text) :=
  match Text.splitAt? ']' s with
  | some (label, '(' :: t) =>
      (Text.splitAt? ')' t).map fun (destination, rest) => (⟨image, label, destination⟩, rest)
  | _ => none

def read? : Text → Option (Link × Text)
  | '!' :: '[' :: s => readAfterBracket? true s
  | '[' :: s => readAfterBracket? false s
  | _ => none

theorem source_of_readAfterBracket? {image : Bool} {s rest : Text} {l : Link}
    (h : readAfterBracket? image s = some (l, rest)) :
    (if image then ['!'] else []) ++ '[' :: s = l.source ++ rest := by
  unfold readAfterBracket? at h
  split at h
  · next label t hs =>
      obtain ⟨⟨destination, r⟩, ht, heq⟩ := Option.map_eq_some_iff.mp h
      cases heq
      rw [(Text.splitAt?_eq_some_iff.mp hs).1, (Text.splitAt?_eq_some_iff.mp ht).1]
      simp [source]
  · cases h

theorem source_of_read? {s rest : Text} {l : Link} (h : read? s = some (l, rest)) :
    s = l.source ++ rest := by
  unfold read? at h
  split at h
  · simpa using source_of_readAfterBracket? h
  · simpa using source_of_readAfterBracket? h
  · cases h

def pattern : Pattern Link where
  read := read?
  source := source
  append_of_read := source_of_read?
  source_ne_nil _ := by simp [source]

end Link

end Tidymark
