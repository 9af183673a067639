import Tidymark.Markdown.Event

/-!
# Balanced events

In balanced events every element that starts also stops.  Counting what
stands inside an element leads to its own stop, whatever balanced events are
passed on the way; the events of blocks are balanced.
-/

namespace Tidymark

namespace Markdown

/-- Events among which every element that starts also stops. -/
inductive Balanced : List Event → Prop where
  | nil : Balanced []
  | bare {rest : List Event} (what : Bare) (span : Span) (h : Balanced rest) :
      Balanced (.bare what span :: rest)
  | element {inside rest : List Event} (tag : Tag) (span : Span) (hinside : Balanced inside)
      (h : Balanced rest) : Balanced (.start tag span :: (inside ++ .stop :: rest))

theorem Balanced.append {events more : List Event} (h : Balanced events) (hmore : Balanced more) :
    Balanced (events ++ more) := by
  induction h with
  | nil => exact hmore
  | bare what span _ ih => exact .bare what span ih
  | element tag span hinside _ _ ih =>
      rw [List.cons_append, List.append_assoc, List.cons_append]
      exact .element tag span hinside ih

namespace Event

variable {inside rest : List Event}

theorem countInside_append (h : Balanced inside) (depth : Nat) (hrest : rest ≠ []) :
    countInside depth (inside ++ rest) = inside.length + countInside depth rest := by
  induction h generalizing depth rest with
  | nil => rw [List.nil_append, List.length_nil, Nat.zero_add]
  | @bare tail what span _ ih =>
      have htail : tail ++ rest ≠ [] := List.append_ne_nil_of_right_ne_nil tail hrest
      rw [List.cons_append, countInside.eq_6 _ _ _ _ htail, ih depth hrest, List.length_cons,
        Nat.add_right_comm]
  | @element inner tail tag span _ _ ihinner ih =>
      have htail : tail ++ rest ≠ [] := List.append_ne_nil_of_right_ne_nil tail hrest
      have hstop : Event.stop :: (tail ++ rest) ≠ [] := List.cons_ne_nil _ _
      have hinner : inner ++ Event.stop :: (tail ++ rest) ≠ [] :=
        List.append_ne_nil_of_right_ne_nil inner hstop
      rw [List.cons_append, List.append_assoc, List.cons_append, countInside.eq_5 _ _ _ _ hinner,
        ihinner (depth + 1) hstop, countInside.eq_4 _ _ htail, ih depth hrest]
      simp only [List.length_cons, List.length_append]
      omega

/-- What stands inside an element is counted up to its stop. -/
theorem countInside_stop (h : Balanced inside) (rest : List Event) :
    countInside 0 (inside ++ .stop :: rest) = inside.length := by
  have hstop : countInside 0 (.stop :: rest) = 0 := by
    cases rest <;> rfl
  rw [countInside_append h 0 (List.cons_ne_nil _ _), hstop, Nat.add_zero]

theorem take_countInside (h : Balanced inside) (rest : List Event) :
    (inside ++ .stop :: rest).take (countInside 0 (inside ++ .stop :: rest)) = inside := by
  rw [countInside_stop h, List.take_left]

theorem drop_countInside (h : Balanced inside) (rest : List Event) :
    (inside ++ .stop :: rest).drop (countInside 0 (inside ++ .stop :: rest) + 1) = rest := by
  rw [countInside_stop h, List.drop_length_add_append, List.drop_one, List.tail_cons]

/-- An element has its stop in one place only. -/
theorem inside_inj {inside' rest' : List Event} (h : Balanced inside) (h' : Balanced inside')
    (heq : inside ++ .stop :: rest = inside' ++ .stop :: rest') :
    inside = inside' ∧ rest = rest' := by
  have hlength : inside.length = inside'.length := by
    rw [← countInside_stop h rest, heq, countInside_stop h' rest']
  obtain ⟨hinside, hrest⟩ := List.append_inj heq hlength
  exact ⟨hinside, (List.cons.inj hrest).2⟩

end Event

/-! ## The events of blocks -/

mutual

theorem Block.balanced_events (tight : Bool) (b : Block) : Balanced (b.events tight) := by
  match b with
  | .heading span _ inline => exact .element _ span (.bare .text inline .nil) .nil
  | .paragraph span inline =>
      rw [Block.events]
      split
      · exact .bare .text inline .nil
      · exact .element _ span (.bare .text inline .nil) .nil
  | .code span _ _ => exact .element _ span (.bare .text span .nil) .nil
  | .list ⟨span, ordered, tight, items⟩ =>
      exact .element _ span (BlockItem.balanced_eventsAll span.stop tight items) .nil
  | .thematicBreak span => exact .bare .thematicBreak span .nil
  | .taskMark span => exact .bare .taskMark span .nil
  | .other span => exact .element _ span .nil .nil

theorem BlockItem.balanced_eventsAll (stop : Nat) (tight : Bool) (items : List BlockItem) :
    Balanced (BlockItem.eventsAll stop tight items) := by
  match items with
  | [] => exact .nil
  | ⟨start, children⟩ :: rest =>
      exact .element _ ⟨start, stop⟩ (Block.balanced_eventsAll tight children)
        (BlockItem.balanced_eventsAll stop tight rest)

theorem Block.balanced_eventsAll (tight : Bool) (blocks : List Block) :
    Balanced (Block.eventsAll tight blocks) := by
  match blocks with
  | [] => exact .nil
  | b :: rest => exact (b.balanced_events tight).append (Block.balanced_eventsAll tight rest)

end

theorem BlockList.balanced_events (l : BlockList) : Balanced l.events :=
  BlockItem.balanced_eventsAll _ _ _

end Markdown

end Tidymark
