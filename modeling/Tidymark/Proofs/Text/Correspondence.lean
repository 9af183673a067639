import Mathlib.Data.List.Forall2

/-!
# Corresponding lists

Two lists correspond if they are as long as each other and their members are
related one by one.  What holds of the members, and how a list is put together
from parts, carries over from one list to the other.
-/

namespace Tidymark

section Correspondence

variable {α β : Type} {R : α → β → Prop}

theorem forall_mem_of_forall₂ {p : α → Prop} {q : β → Prop} (hpq : ∀ a b, R a b → p a → q b)
    {l : List α} {l' : List β} (h : List.Forall₂ R l l') (hl : ∀ a ∈ l, p a) : ∀ b ∈ l', q b := by
  induction h with
  | nil => simp
  | cons hab _ ih =>
      rw [List.forall_mem_cons] at hl ⊢
      exact ⟨hpq _ _ hab hl.1, ih hl.2⟩

theorem forall_mem_left_of_forall₂ {p : α → Prop} {q : β → Prop}
    (hqp : ∀ a b, R a b → q b → p a) {l : List α} {l' : List β} (h : List.Forall₂ R l l')
    (hl : ∀ b ∈ l', q b) : ∀ a ∈ l, p a :=
  forall_mem_of_forall₂ (R := flip R) (fun b a hab hb => hqp a b hab hb) h.flip hl

theorem map_eq_of_forall₂ {γ : Type} {f : α → γ} {g : β → γ} (hfg : ∀ a b, R a b → g b = f a)
    {l : List α} {l' : List β} (h : List.Forall₂ R l l') : l'.map g = l.map f := by
  induction h with
  | nil => rfl
  | cons hab _ ih => rw [List.map_cons, List.map_cons, hfg _ _ hab, ih]

theorem forall₂_comp {γ : Type} {S : β → γ → Prop} {l : List α} {l' : List β} {l'' : List γ}
    (h : List.Forall₂ R l l') (h' : List.Forall₂ S l' l'') :
    List.Forall₂ (fun a c => ∃ b, R a b ∧ S b c) l l'' := by
  induction h generalizing l'' with
  | nil =>
      cases h'
      exact .nil
  | @cons a b l l' hab _ ih =>
      obtain ⟨c, l'', hbc, hrest, rfl⟩ := List.forall₂_cons_left_iff.mp h'
      exact .cons ⟨b, hab, hbc⟩ (ih hrest)

theorem exists_of_forall₂_append {a b : List α} {l : List β} (h : List.Forall₂ R (a ++ b) l) :
    ∃ a' b', l = a' ++ b' ∧ List.Forall₂ R a a' ∧ List.Forall₂ R b b' := by
  induction a generalizing l with
  | nil => exact ⟨[], l, rfl, .nil, h⟩
  | cons x a ih =>
      obtain ⟨x', l, hx, hrest, rfl⟩ := List.forall₂_cons_left_iff.mp h
      obtain ⟨a', b', rfl, ha, hb⟩ := ih hrest
      exact ⟨x' :: a', b', rfl, .cons hx ha, hb⟩

theorem forall₂_dropLast {l : List α} {l' : List β} (h : List.Forall₂ R l l') :
    List.Forall₂ R l.dropLast l'.dropLast := by
  rw [List.dropLast_eq_take, List.dropLast_eq_take, h.length_eq]
  exact List.forall₂_take _ h

theorem forall₂_tail {l : List α} {l' : List β} (h : List.Forall₂ R l l') :
    List.Forall₂ R l.tail l'.tail := by
  rw [← List.drop_one, ← List.drop_one]
  exact List.forall₂_drop 1 h

/-- What corresponds to parts put together is put together from parts. -/
theorem exists_of_forall₂_flatten {parts : List (List α)} {l : List β}
    (h : List.Forall₂ R parts.flatten l) :
    ∃ parts', parts'.flatten = l ∧ List.Forall₂ (List.Forall₂ R) parts parts' := by
  induction parts generalizing l with
  | nil =>
      cases h
      exact ⟨[], rfl, .nil⟩
  | cons part parts ih =>
      obtain ⟨part', l, rfl, hpart, hrest⟩ := exists_of_forall₂_append h
      obtain ⟨parts', rfl, hparts⟩ := ih hrest
      exact ⟨part' :: parts', rfl, .cons hpart hparts⟩

theorem exists_of_forall₂_map_flatten {parts : List (List (List α))} {ls : List (List β)}
    (h : List.Forall₂ (List.Forall₂ R) (parts.map List.flatten) ls) :
    ∃ parts', parts'.map List.flatten = ls ∧
      List.Forall₂ (List.Forall₂ (List.Forall₂ R)) parts parts' := by
  induction parts generalizing ls with
  | nil =>
      cases h
      exact ⟨[], rfl, .nil⟩
  | cons part parts ih =>
      obtain ⟨l, ls, hl, hrest, rfl⟩ := List.forall₂_cons_left_iff.mp h
      obtain ⟨part', rfl, hpart⟩ := exists_of_forall₂_flatten hl
      obtain ⟨parts', rfl, hparts⟩ := ih hrest
      exact ⟨part' :: parts', rfl, .cons hpart hparts⟩

end Correspondence

end Tidymark
