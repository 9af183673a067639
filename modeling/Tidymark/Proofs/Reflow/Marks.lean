import Tidymark.Proofs.Inline.Links
import Tidymark.Proofs.Reflow.Content

/-!
# Marks between other blanks

The blanks that separate tokens lie outside links.  With other blanks in their
place, and without those behind the last token, a text has the links that it
had, and every character that stays is marked as it was.
-/

namespace Tidymark

namespace Marked

/-! ## Marks from left to right -/

theorem ofPieces_consPlain (s : Text) (ps : List (Piece Link)) :
    ofPieces (Piece.consPlain s ps) = s.map (⟨·, false⟩) ++ ofPieces ps := by
  cases ps with
  | nil => rfl
  | cons p ps =>
      cases p with
      | plain t => simp [Piece.consPlain, ofPieces]
      | found l => rfl

@[simp] theorem ofText_nil : ofText [] = [] := by
  rw [ofText, Pattern.pieces]
  rfl

theorem ofText_of_read {s rest : Text} {l : Link} (h : Link.read? s = some (l, rest)) :
    ofText s = l.source.map (⟨·, true⟩) ++ ofText rest := by
  rw [ofText, Pattern.pieces_of_read (p := Link.pattern) h]
  rfl

theorem ofText_cons {c : Char} {s : Text} (h : Link.read? (c :: s) = none) :
    ofText (c :: s) = ⟨c, false⟩ :: ofText s := by
  rw [ofText, Pattern.pieces_cons (p := Link.pattern) h, ofPieces_consPlain]
  rfl

theorem ofText_append_blanks {g : Text} (hg : ∀ c ∈ g, isBlank c = true) (s : Text) :
    ofText (g ++ s) = g.map (⟨·, false⟩) ++ ofText s := by
  induction g with
  | nil => rfl
  | cons c g ih =>
      rw [List.forall_mem_cons] at hg
      rw [List.cons_append, ofText_cons (Link.read?_cons_blank hg.1 _), ih hg.2]
      rfl

/-! ## Separating characters -/

theorem linked_of_separates {m : Marked} (h : m.separates = true) : m.linked = false := by
  rw [separates, Bool.and_eq_true, Bool.not_eq_true'] at h
  exact h.2

theorem separates_mk {c : Char} (hc : isBlank c = true) :
    (⟨c, false⟩ : Marked).separates = true := by
  simp [separates, hc]

theorem map_chars_of_separates {g : List Marked} (hg : ∀ m ∈ g, m.separates = true) :
    (g.map (·.char)).map (⟨·, false⟩) = g := by
  rw [List.map_map]
  calc g.map ((⟨·, false⟩) ∘ (·.char)) = g.map id := by
        apply List.map_congr_left
        intro m hm
        rw [Function.comp_apply, ← linked_of_separates (hg m hm), id]
    _ = g := List.map_id g

/-- What stands behind separating characters is marked as a text of its own. -/
theorem exists_of_ofText_append {s : Text} {front rest : List Marked}
    (hfront : ∀ m ∈ front, m.separates = true) (h : ofText s = front ++ rest) :
    ∃ r, ofText r = rest := by
  induction front generalizing s with
  | nil => exact ⟨s, h⟩
  | cons m front ih =>
      rw [List.forall_mem_cons] at hfront
      cases s with
      | nil =>
          rw [ofText_nil] at h
          cases h
      | cons c s =>
          cases hread : Link.read? (c :: s) with
          | none =>
              rw [ofText_cons hread, List.cons_append, List.cons.injEq] at h
              exact ih hfront.2 h.2
          | some found =>
              obtain ⟨l, r⟩ := found
              obtain ⟨d, source, hsource⟩ : ∃ d source, l.source = d :: source :=
                List.exists_cons_of_ne_nil (Link.pattern.source_ne_nil hread)
              rw [ofText_of_read hread, hsource, List.map_cons, List.cons_append, List.cons_append,
                List.cons.injEq] at h
              have hlinked := linked_of_separates hfront.1
              rw [← h.1] at hlinked
              cases hlinked

/-! ## Respacing -/

/-- Marked characters with some runs of separating ones replaced by others. -/
inductive Respaced : List Marked → List Marked → Prop where
  | nil : Respaced [] []
  | char (m : Marked) {s t : List Marked} (h : Respaced s t) : Respaced (m :: s) (m :: t)
  | gap {g k s t : List Marked} (hg : g ≠ []) (hk : k ≠ []) (hgs : ∀ m ∈ g, m.separates = true)
      (hks : ∀ m ∈ k, m.separates = true) (h : Respaced s t) : Respaced (g ++ s) (k ++ t)

namespace Respaced

theorem append_left (a : List Marked) {s t : List Marked} (h : Respaced s t) :
    Respaced (a ++ s) (a ++ t) := by
  induction a with
  | nil => exact h
  | cons m a ih => exact .char m ih

theorem chars {s t : List Marked} (h : Respaced s t) :
    Text.Respaced (s.map (·.char)) (t.map (·.char)) := by
  induction h with
  | nil => exact .nil
  | char m h ih => exact .char m.char ih
  | gap hg hk hgs hks h ih =>
      rw [List.map_append, List.map_append]
      exact .blanks (mt List.map_eq_nil_iff.mp hg) (mt List.map_eq_nil_iff.mp hk)
        (isBlank_of_mem_chars hgs) (isBlank_of_mem_chars hks) ih

theorem eq_nil {t : List Marked} (h : Respaced [] t) : t = [] := by
  generalize hs : ([] : List Marked) = s at h
  cases h with
  | nil => rfl
  | char m _ => cases hs
  | gap hg _ _ _ _ => exact absurd (List.append_eq_nil_iff.mp hs.symm).1 hg

theorem exists_of_cons {m : Marked} (hm : m.separates = false) {s t : List Marked}
    (h : Respaced (m :: s) t) : ∃ t', t = m :: t' ∧ Respaced s t' := by
  generalize hs : m :: s = u at h
  cases h with
  | nil => cases hs
  | char n h =>
      cases hs
      exact ⟨_, rfl, h⟩
  | gap hg _ hgs _ _ =>
      obtain ⟨n, g, rfl⟩ := List.exists_cons_of_ne_nil hg
      rw [List.cons_append, List.cons.injEq] at hs
      rw [hs.1, hgs n List.mem_cons_self] at hm
      cases hm

/-- What does not separate keeps its place. -/
theorem exists_of_append_left {a s t : List Marked} (ha : ∀ m ∈ a, m.separates = false)
    (h : Respaced (a ++ s) t) : ∃ t', t = a ++ t' ∧ Respaced s t' := by
  induction a generalizing t with
  | nil => exact ⟨t, rfl, h⟩
  | cons m a ih =>
      rw [List.forall_mem_cons] at ha
      obtain ⟨u, rfl, hu⟩ := h.exists_of_cons ha.1
      obtain ⟨t', rfl, ht⟩ := ih ha.2 hu
      exact ⟨t', rfl, ht⟩

end Respaced

theorem exists_of_append_eq {a b x trail : List Marked} (ha : ∀ m ∈ a, m.separates = false)
    (htrail : ∀ m ∈ trail, m.separates = true) (h : a ++ b = x ++ trail) :
    ∃ x', x = a ++ x' ∧ b = x' ++ trail := by
  induction a generalizing x with
  | nil => exact ⟨x, rfl, h⟩
  | cons m a ih =>
      rw [List.forall_mem_cons] at ha
      cases x with
      | nil =>
          rw [List.nil_append] at h
          rw [htrail m (by rw [← h]; simp)] at ha
          cases ha.1
      | cons n x =>
          rw [List.cons_append, List.cons_append, List.cons.injEq] at h
          obtain ⟨rfl, h⟩ := h
          obtain ⟨x', rfl, rfl⟩ := ih ha.2 h
          exact ⟨x', rfl, rfl⟩

/-- Links are found where they were: characters respaced outside of links, and without those that
separate at the end, are marked as they were. -/
theorem ofText_respaced {s : Text} {a trail t : List Marked} (hs : ofText s = a ++ trail)
    (htrail : ∀ m ∈ trail, m.separates = true) (h : Respaced a t) :
    ofText (t.map (·.char)) = t := by
  induction s using Pattern.pieces.induct (p := Link.pattern) generalizing a t with
  | case1 =>
      rw [ofText_nil, eq_comm, List.append_eq_nil_iff] at hs
      obtain ⟨rfl, _⟩ := hs
      rw [h.eq_nil]
      exact ofText_nil
  | case2 c s l rest hread ih =>
      have hlink : Link.read? (c :: s) = some (l, rest) := hread
      have hlinked : ∀ m ∈ l.source.map (⟨·, true⟩ : Char → Marked), m.separates = false := by
        intro m hm
        obtain ⟨d, _, rfl⟩ := List.mem_map.mp hm
        simp [separates]
      rw [ofText_of_read hlink] at hs
      obtain ⟨a, rfl, hrest⟩ := exists_of_append_eq hlinked htrail hs
      obtain ⟨t, rfl, ht⟩ := h.exists_of_append_left hlinked
      have hsource : (l.source.map (⟨·, true⟩ : Char → Marked)).map (·.char) = l.source := by
        rw [List.map_map]
        exact List.map_id l.source
      rw [List.map_append, hsource, ofText_of_read (Link.read?_source_append hlink _),
        ih hrest ht]
  | case3 c s hread ih =>
      have hlink : Link.read? (c :: s) = none := hread
      rw [ofText_cons hlink] at hs
      cases a with
      | nil =>
          rw [h.eq_nil]
          exact ofText_nil
      | cons m a =>
          rw [List.cons_append, List.cons.injEq] at hs
          obtain ⟨rfl, hs⟩ := hs
          have hchars : s = a.map (·.char) ++ trail.map (·.char) := by
            rw [← List.map_append, ← hs, chars_ofText]
          generalize hu : (⟨c, false⟩ : Marked) :: a = u at h
          cases h with
          | nil => cases hu
          | char n h =>
              cases hu
              have hnone : Link.read? (c :: a.map (·.char) ++ trail.map (·.char)) = none := by
                rw [List.cons_append, ← hchars, hlink]
              rw [List.map_cons, ofText_cons
                (Link.read?_eq_none_of_respaced (.char c h.chars) hnone), ih hs h]
          | @gap g k u t hg hk hgs hks h =>
              obtain ⟨n, g, rfl⟩ := List.exists_cons_of_ne_nil hg
              rw [List.cons_append, List.cons.injEq] at hu
              obtain ⟨rfl, rfl⟩ := hu
              rw [List.forall_mem_cons] at hgs
              by_cases hne : g = []
              · subst hne
                rw [List.map_append, ofText_append_blanks (isBlank_of_mem_chars hks),
                  map_chars_of_separates hks, ih hs h]
              · exact ih hs (.gap hne hk hgs.2 hks h)

end Marked

end Tidymark
