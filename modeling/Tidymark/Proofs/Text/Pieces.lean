import Tidymark.Text.Piece
import Mathlib.Data.List.Forall2

/-!
# Pieces of a text

What a pattern finds is settled from left to right: it is read off the start
of the text, or the first character is passed.  Each find stands in the text
where its range tells, and where the pattern finds nothing it can be read off
no part of the text.  Finds and the gaps between them, in turns, are the text
again.
-/

namespace Tidymark

/-- The bytes of a span are those of a part of the text. -/
def Span.Cuts (span : Span) (s part : Text) : Prop :=
  ∃ before after, s = before ++ part ++ after ∧
    span = ⟨Text.byteSize before, Text.byteSize (before ++ part)⟩

theorem Text.byteSize_pos {s : Text} (h : s ≠ []) : 0 < Text.byteSize s := by
  cases s with
  | nil => exact absurd rfl h
  | cons c s => exact Nat.lt_of_lt_of_le c.utf8Size_pos (Nat.le_add_right _ _)

theorem append_eq_append_cases {α : Type} {x r y w : List α} (h : x ++ r = y ++ w) :
    (∃ y', y = x ++ y' ∧ r = y' ++ w) ∨ ∃ z, z ≠ [] ∧ x = y ++ z ∧ z ++ r = w := by
  rcases List.append_eq_append_iff.mp h with hbehind | ⟨z, hx, hw⟩
  · exact .inl hbehind
  · by_cases hz : z = []
    · subst hz
      exact .inl ⟨[], by rw [hx, List.append_nil, List.append_nil], hw.symm⟩
    · exact .inr ⟨z, hz, hx, hw.symm⟩

namespace Piece

variable {α : Type} {source : α → Text}

@[simp] theorem finds_consPlain (s : Text) (ps : List (Piece α)) :
    finds (consPlain s ps) = finds ps := by
  cases ps with
  | nil => rfl
  | cons p ps => cases p <;> rfl

theorem consPlain_consPlain (s t : Text) (ps : List (Piece α)) :
    consPlain s (consPlain t ps) = consPlain (s ++ t) ps := by
  cases ps with
  | nil => rfl
  | cons p ps =>
      cases p with
      | plain u => rw [consPlain, consPlain, consPlain, List.append_assoc]
      | found a => rfl

theorem consPlain_append_found (s : Text) (ps qs : List (Piece α)) (a : α) :
    consPlain s (ps ++ .found a :: qs) = consPlain s ps ++ .found a :: qs := by
  cases ps with
  | nil => rfl
  | cons p ps => cases p <;> rfl

theorem textOf_append (source : α → Text) (ps qs : List (Piece α)) :
    textOf source (ps ++ qs) = textOf source ps ++ textOf source qs := by
  induction ps with
  | nil => rfl
  | cons p ps ih => rw [List.cons_append, textOf, ih, textOf, List.append_assoc]

theorem mapText_append (plain : Text → Text) (found : α → Text) (ps qs : List (Piece α)) :
    mapText plain found (ps ++ qs) = mapText plain found ps ++ mapText plain found qs := by
  induction ps with
  | nil => rfl
  | cons p ps ih =>
      cases p with
      | plain s => rw [List.cons_append, mapText, ih, mapText, List.append_assoc]
      | found a => rw [List.cons_append, mapText, ih, mapText, List.append_assoc]

theorem mapText_id (found : α → Text) (ps : List (Piece α)) :
    mapText id found ps = textOf found ps := by
  induction ps with
  | nil => rfl
  | cons p ps ih => cases p <;> rw [mapText, textOf, ih] <;> rfl

/-- Finds that are written in another way, and never with more characters, change the text. -/
theorem textOf_eq_textOf_iff {written : α → Text}
    (hlength : ∀ a, (written a).length ≤ (source a).length) {ps : List (Piece α)}
    (hne : ∀ a ∈ finds ps, written a ≠ source a) :
    textOf written ps = textOf source ps ↔ finds ps = [] := by
  have hshorter (ps : List (Piece α)) : (textOf written ps).length ≤ (textOf source ps).length := by
    induction ps with
    | nil => exact Nat.le_refl _
    | cons p ps ih =>
        rw [textOf, textOf, List.length_append, List.length_append]
        cases p with
        | plain s => exact Nat.add_le_add_left ih _
        | found a => exact Nat.add_le_add (hlength a) ih
  induction ps with
  | nil => exact iff_of_true rfl rfl
  | cons p ps ih =>
      cases p with
      | plain s => exact (List.append_right_inj s).trans (ih hne)
      | found a =>
          refine iff_of_false (fun heq => ?_) (List.cons_ne_nil _ _)
          have htotal := congrArg List.length heq
          have hrest := hshorter ps
          have ha : (text written (.found a)).length ≤ (text source (.found a)).length := hlength a
          rw [textOf, textOf, List.length_append, List.length_append] at htotal
          exact hne a List.mem_cons_self (List.append_inj heq (by omega)).1

/-- The span of each find cuts it out of the text, behind what stands in front of the pieces. -/
theorem cuts_spans (before : Text) (ps : List (Piece α)) :
    List.Forall₂ (fun span a => span.Cuts (before ++ textOf source ps) (source a))
      (spans source (Text.byteSize before) ps) (finds ps) := by
  induction ps generalizing before with
  | nil => exact .nil
  | cons p ps ih =>
      cases p with
      | plain s =>
          have hrest := ih (before ++ s)
          rw [Text.byteSize_append, List.append_assoc] at hrest
          exact hrest
      | found a =>
          have hrest := ih (before ++ source a)
          rw [Text.byteSize_append, List.append_assoc] at hrest
          refine .cons ⟨before, textOf source ps, (List.append_assoc _ _ _).symm, ?_⟩ hrest
          rw [Text.byteSize_append]

theorem pairwise_spans (offset : Nat) (ps : List (Piece α)) :
    (spans source offset ps).Pairwise (fun span next => span.stop ≤ next.start) ∧
      ∀ span ∈ spans source offset ps, offset ≤ span.start := by
  induction ps generalizing offset with
  | nil => exact ⟨.nil, fun span hspan => absurd hspan List.not_mem_nil⟩
  | cons p ps ih =>
      cases p with
      | plain s =>
          obtain ⟨hpairwise, hstart⟩ := ih (offset + Text.byteSize s)
          refine ⟨hpairwise, fun span hspan => ?_⟩
          exact Nat.le_trans (Nat.le_add_right _ _) (hstart span hspan)
      | found a =>
          obtain ⟨hpairwise, hstart⟩ := ih (offset + Text.byteSize (source a))
          refine ⟨.cons hstart hpairwise, ?_⟩
          rintro span hspan
          rcases List.mem_cons.mp hspan with rfl | hspan
          · exact Nat.le_refl _
          · exact Nat.le_trans (Nat.le_add_right _ _) (hstart span hspan)

/-- What relates each piece to what is made of it relates the whole texts, if it relates texts put
together to each other. -/
theorem relates_mapText {R : Text → Text → Prop} (hnil : R [] [])
    (happend : ∀ {s t s' t'}, R s t → R s' t' → R (s ++ s') (t ++ t')) {plain : Text → Text}
    {found : α → Text} (hplain : ∀ s, R s (plain s)) (hfound : ∀ a, R (source a) (found a))
    (ps : List (Piece α)) : R (textOf source ps) (mapText plain found ps) := by
  induction ps with
  | nil => exact hnil
  | cons p ps ih =>
      cases p with
      | plain s => exact happend (hplain s) ih
      | found a => exact happend (hfound a) ih

/-! ## The characters of pieces -/

theorem exists_of_mem_mapText {plain : Text → Text} {found : α → Text} {c : Char}
    {ps : List (Piece α)} (h : c ∈ mapText plain found ps) :
    (∃ s, c ∈ plain s) ∨ ∃ a ∈ finds ps, c ∈ found a := by
  induction ps with
  | nil => cases h
  | cons p ps ih =>
      cases p with
      | plain s =>
          rw [mapText, List.mem_append] at h
          exact h.elim (fun h => .inl ⟨s, h⟩) ih
      | found a =>
          rw [mapText, List.mem_append] at h
          rcases h with h | h
          · exact .inr ⟨a, List.mem_cons_self, h⟩
          · exact (ih h).imp_right fun ⟨b, hb, hc⟩ => ⟨b, List.mem_cons_of_mem _ hb, hc⟩

theorem mem_textOf {c : Char} {a : α} {ps : List (Piece α)} (ha : a ∈ finds ps)
    (hc : c ∈ source a) : c ∈ textOf source ps := by
  induction ps with
  | nil => cases ha
  | cons p ps ih =>
      rw [textOf, List.mem_append]
      cases p with
      | plain s => exact .inr (ih ha)
      | found b =>
          rcases List.mem_cons.mp ha with rfl | ha
          · exact .inl hc
          · exact .inr (ih ha)

/-! ## What stands between finds -/

/-- The plain text in front of each find, and that behind the last. -/
def gaps : List (Piece α) → List Text
  | [] => [[]]
  | .plain s :: ps => (gaps ps).modifyHead (s ++ ·)
  | .found _ :: ps => [] :: gaps ps

/-- Gaps and finds, in turns. -/
def interleave : List Text → List α → List (Piece α)
  | gap :: gaps, a :: as => .plain gap :: .found a :: interleave gaps as
  | gaps, _ => gaps.map .plain

theorem length_gaps (ps : List (Piece α)) : (gaps ps).length = (finds ps).length + 1 := by
  induction ps with
  | nil => rfl
  | cons p ps ih =>
      cases p with
      | plain s => rw [gaps, List.length_modifyHead, ih, finds]
      | found a => rw [gaps, List.length_cons, ih, finds, List.length_cons]

theorem exists_gaps_eq_cons (ps : List (Piece α)) : ∃ gap rest, gaps ps = gap :: rest := by
  apply List.exists_cons_of_ne_nil
  apply List.ne_nil_of_length_eq_add_one
  exact length_gaps ps

theorem gaps_consPlain (s : Text) (ps : List (Piece α)) :
    gaps (consPlain s ps) = (gaps ps).modifyHead (s ++ ·) := by
  cases ps with
  | nil => rfl
  | cons p ps =>
      cases p with
      | plain t =>
          obtain ⟨gap, rest, hgaps⟩ := exists_gaps_eq_cons ps
          rw [consPlain, gaps, gaps, hgaps, List.modifyHead_cons, List.modifyHead_cons,
            List.modifyHead_cons, List.append_assoc]
      | found a => rfl

theorem textOf_interleave_cons (s gap : Text) (rest : List Text) (as : List α) :
    textOf source (interleave ((s ++ gap) :: rest) as) =
      s ++ textOf source (interleave (gap :: rest) as) := by
  cases as with
  | nil => exact List.append_assoc _ _ _
  | cons a as => exact List.append_assoc _ _ _

theorem spans_interleave_cons (offset : Nat) (s gap : Text) (rest : List Text) (as : List α) :
    spans source offset (interleave ((s ++ gap) :: rest) as) =
      spans source (offset + Text.byteSize s) (interleave (gap :: rest) as) := by
  cases as with
  | nil | cons a as =>
      simp only [interleave, List.map_cons, spans, Text.byteSize_append, Nat.add_assoc]

theorem textOf_interleave (ps : List (Piece α)) :
    textOf source (interleave (gaps ps) (finds ps)) = textOf source ps := by
  induction ps with
  | nil => rfl
  | cons p ps ih =>
      cases p with
      | plain s =>
          obtain ⟨gap, rest, hgaps⟩ := exists_gaps_eq_cons ps
          rw [gaps, hgaps, List.modifyHead_cons, finds, textOf_interleave_cons, ← hgaps, ih]
          rfl
      | found a =>
          rw [gaps, finds, interleave, textOf, textOf, ih]
          rfl

/-- The finds stand where the gaps leave them. -/
theorem spans_interleave (offset : Nat) (ps : List (Piece α)) :
    spans source offset (interleave (gaps ps) (finds ps)) = spans source offset ps := by
  induction ps generalizing offset with
  | nil => rfl
  | cons p ps ih =>
      cases p with
      | plain s =>
          obtain ⟨gap, rest, hgaps⟩ := exists_gaps_eq_cons ps
          rw [gaps, hgaps, List.modifyHead_cons, finds, spans_interleave_cons, ← hgaps, ih, spans]
      | found a =>
          rw [gaps, finds, interleave, spans, spans, spans, ih]
          rfl

end Piece

namespace Pattern

variable {α : Type} (p : Pattern α)

/-- What relates each find to what replaces it relates the whole texts, if it relates each text to
itself and texts put together to each other. -/
theorem relates_replace {R : Text → Text → Prop} {f : α → Text}
    (hrefl : ∀ s, R s s) (happend : ∀ {s t s' t'}, R s t → R s' t' → R (s ++ s') (t ++ t'))
    (hf : ∀ a, R (p.source a) (f a)) (s : Text) : R s (p.replace f s) := by
  have hs := Piece.relates_mapText (hrefl []) happend hrefl hf (p.pieces s)
  rwa [p.textOf_pieces] at hs

theorem cuts_ranges (s : Text) :
    List.Forall₂ (fun span a => span.Cuts s (p.source a)) (p.ranges s) (p.findAll s) := by
  have hcuts := @Piece.cuts_spans α p.source [] (p.pieces s)
  rwa [List.nil_append, p.textOf_pieces] at hcuts

/-! ## From left to right -/

section Step

variable {p} {c : Char} {s rest : Text} {a : α}

theorem pieces_of_read (h : p.read s = some (a, rest)) :
    p.pieces s = .found a :: p.pieces rest := by
  obtain ⟨c, s, rfl⟩ : ∃ c t, s = c :: t := by
    apply List.exists_cons_of_ne_nil
    rw [p.append_of_read h]
    exact List.append_ne_nil_of_left_ne_nil (p.source_ne_nil h) rest
  rw [pieces]
  split
  · next hread =>
      rw [h] at hread
      cases hread
      rfl
  · next hread =>
      rw [h] at hread
      cases hread

theorem pieces_cons (h : p.read (c :: s) = none) :
    p.pieces (c :: s) = Piece.consPlain [c] (p.pieces s) := by
  rw [pieces]
  split
  · next hread =>
      rw [h] at hread
      cases hread
  · rfl

@[simp] theorem findAll_nil : p.findAll [] = [] := by
  rw [findAll, pieces]
  rfl

theorem findAll_of_read (h : p.read s = some (a, rest)) :
    p.findAll s = a :: p.findAll rest := by
  rw [findAll, pieces_of_read h]
  rfl

theorem findAll_cons (h : p.read (c :: s) = none) : p.findAll (c :: s) = p.findAll s := by
  rw [findAll, pieces_cons h, Piece.finds_consPlain]
  rfl

end Step

/-- Finds correspond if what is read off related texts does and leaves related texts, and where
nothing is read the first character can be passed. -/
theorem forall₂_findAll {β : Type} {q : Pattern β} {R : Text → Text → Prop} {Q : α → β → Prop}
    (hnil : ∀ t, R [] t → t = [])
    (hread : ∀ s t a rest, R s t → p.read s = some (a, rest) →
      ∃ b rest', q.read t = some (b, rest') ∧ Q a b ∧ R rest rest')
    (hskip : ∀ c s t, R (c :: s) t → p.read (c :: s) = none →
      R s t ∨ ∃ d t', t = d :: t' ∧ q.read t = none ∧ R s t')
    {s t : Text} (h : R s t) : List.Forall₂ Q (p.findAll s) (q.findAll t) := by
  induction s using Pattern.pieces.induct (p := p) generalizing t with
  | case1 =>
      rw [hnil t h, findAll_nil, findAll_nil]
      exact .nil
  | case2 c s a rest hfound ih =>
      obtain ⟨b, rest', hb, hab, hrest⟩ := hread _ t a rest h hfound
      rw [findAll_of_read hfound, findAll_of_read hb]
      exact .cons hab (ih hrest)
  | case3 c s hnone ih =>
      rw [findAll_cons hnone]
      rcases hskip c s t h hnone with hpassed | ⟨d, t, rfl, hplain, hpassed⟩
      · exact ih hpassed
      · rw [findAll_cons hplain]
        exact ih hpassed

theorem exists_read_of_mem_findAll {s : Text} {a : α} (h : a ∈ p.findAll s) :
    ∃ front t rest, s = front ++ t ∧ p.read t = some (a, rest) := by
  induction s using Pattern.pieces.induct (p := p) with
  | case1 =>
      rw [findAll_nil] at h
      cases h
  | case2 c s b rest hread ih =>
      rw [findAll_of_read hread] at h
      rcases List.mem_cons.mp h with rfl | h
      · exact ⟨[], c :: s, rest, rfl, hread⟩
      · obtain ⟨front, t, tail, rfl, ht⟩ := ih h
        exact ⟨p.source b ++ front, t, tail, by rw [p.append_of_read hread, List.append_assoc], ht⟩
  | case3 c s hread ih =>
      rw [findAll_cons hread] at h
      obtain ⟨front, t, rest, rfl, ht⟩ := ih h
      exact ⟨c :: front, t, rest, rfl, ht⟩

theorem occursIn_eq_false_iff {s : Text} : p.occursIn s = false ↔ p.findAll s = [] := by
  rw [occursIn, Bool.not_eq_false', List.isEmpty_iff]

theorem read_eq_none_of_occursIn {front t : Text} (h : p.occursIn (front ++ t) = false) :
    p.read t = none := by
  rw [occursIn_eq_false_iff] at h
  induction front with
  | nil =>
      rw [Option.eq_none_iff_forall_ne_some]
      rintro ⟨a, rest⟩ hread
      rw [List.nil_append, findAll_of_read hread] at h
      cases h
  | cons c front ih =>
      cases hread : p.read (c :: (front ++ t)) with
      | none =>
          rw [List.cons_append, findAll_cons hread] at h
          exact ih h
      | some found =>
          rw [List.cons_append, findAll_of_read hread] at h
          cases h

/-- A pattern that finds nothing leaves nothing to find for one that is read in fewer places. -/
theorem occursIn_eq_false_of_read {β : Type} {p : Pattern α} {q : Pattern β}
    (hqp : ∀ s, p.read s = none → q.read s = none) {s : Text} (h : p.occursIn s = false) :
    q.occursIn s = false := by
  rw [occursIn_eq_false_iff, List.eq_nil_iff_forall_not_mem]
  intro a ha
  obtain ⟨front, t, rest, rfl, ht⟩ := q.exists_read_of_mem_findAll ha
  rw [hqp t (p.read_eq_none_of_occursIn h)] at ht
  cases ht

end Pattern

end Tidymark
