import Tidymark.Proofs.Reflow.Marks

/-!
# Tokens read again

Tokens of a text that are written one behind the other, with a blank behind
each but the last, are the tokens of what is written.  Only their hard breaks
are made anew: one ends in an odd number of backslashes and has a line feed
behind it.
-/

namespace Tidymark

/-! ## One token -/

namespace Token

theorem ofMarked_eq_nil_iff {s : List Marked} :
    ofMarked s = [] ↔ ∀ m ∈ s, m.separates = true := by
  rw [← List.dropWhile_eq_nil_iff, ofMarked]
  split
  · next h => simp [h]
  · next h => simp [h]

@[simp] theorem ofMarked_nil : ofMarked [] = [] := ofMarked_eq_nil_iff.mpr (by simp)

theorem ofMarked_cons_of_separates {m : Marked} (hm : m.separates = true) (s : List Marked) :
    ofMarked (m :: s) = ofMarked s := by
  rw [ofMarked, ofMarked, List.dropWhile_cons_of_pos hm]

theorem ofMarked_append_gap {gap : List Marked} (hgap : ∀ m ∈ gap, m.separates = true)
    (s : List Marked) : ofMarked (gap ++ s) = ofMarked s := by
  induction gap with
  | nil => rfl
  | cons m gap ih =>
      rw [List.forall_mem_cons] at hgap
      exact (ofMarked_cons_of_separates hgap.1 _).trans (ih hgap.2)

/-- A run of characters that do not separate, in front of one that does or of the end, is the first
token. -/
theorem ofMarked_append {w rest : List Marked} (hne : w ≠ [])
    (hw : ∀ m ∈ w, m.separates = false)
    (hrest : ∀ m, rest.head? = some m → m.separates = true) :
    ofMarked (w ++ rest) =
      ⟨w.map (·.char), !(rest.dropWhile Marked.separates).isEmpty &&
        (rest.takeWhile Marked.separates).any (·.char == '\n') &&
        endsEscaped (w.map (·.char))⟩ :: ofMarked rest := by
  obtain ⟨m, w, rfl⟩ := List.exists_cons_of_ne_nil hne
  rw [List.forall_mem_cons] at hw
  have hword : ∀ k ∈ w, (!k.separates) = true := fun k hk => by rw [hw.2 k hk]; rfl
  have hstop : ∀ k, rest.head? = some k → (!k.separates) = false := fun k hk => by
    rw [hrest k hk]; rfl
  have hdrop : (m :: w ++ rest).dropWhile Marked.separates = m :: (w ++ rest) :=
    List.dropWhile_cons_of_neg (by simp [hw.1])
  rw [ofMarked]
  split
  · next h =>
      rw [hdrop] at h
      cases h
  · next k r h =>
      rw [hdrop] at h
      cases h
      simp only [takeWhile_append_of_stop hword hstop, dropWhile_append_of_stop hword hstop,
        List.map_cons]

theorem ofMarked_word {w : List Marked} (hne : w ≠ []) (hw : ∀ m ∈ w, m.separates = false) :
    ofMarked w = [⟨w.map (·.char), false⟩] := by
  have happend : ofMarked (w ++ []) = ⟨w.map (·.char), false⟩ :: ofMarked [] :=
    ofMarked_append hne hw (by simp)
  rwa [List.append_nil, ofMarked_nil] at happend

theorem ofMarked_word_cons {w t : List Marked} (hne : w ≠ []) (hw : ∀ m ∈ w, m.separates = false)
    {c : Char} (hc : isBlank c = true) {m : Marked} (hm : m.separates = false) :
    ofMarked (w ++ ⟨c, false⟩ :: m :: t) =
      ⟨w.map (·.char), c == '\n' && endsEscaped (w.map (·.char))⟩ :: ofMarked (m :: t) := by
  have hsep := Marked.separates_mk hc
  rw [ofMarked_append hne hw (by simp [hsep]), ofMarked_cons_of_separates hsep]
  simp [hsep, hm]

theorem exists_of_ofMarked_cons {s : List Marked} {token : Token} {tokens : List Token}
    (h : ofMarked s = token :: tokens) :
    ∃ w rest, s.dropWhile Marked.separates = w ++ rest ∧ w ≠ [] ∧
      (∀ m ∈ w, m.separates = false) ∧ (∀ m, rest.head? = some m → m.separates = true) ∧
      token.text = w.map (·.char) ∧ ofMarked rest = tokens := by
  rw [ofMarked] at h
  split at h
  · cases h
  · next m r hsplit =>
      cases h
      refine ⟨m :: r.takeWhile (!·.separates), r.dropWhile (!·.separates), ?_,
        List.cons_ne_nil _ _, ?_, ?_, rfl, rfl⟩
      · rw [hsplit, List.cons_append, List.takeWhile_append_dropWhile]
      · rw [List.forall_mem_cons]
        refine ⟨Text.not_of_head?_dropWhile (by rw [hsplit, List.head?_cons]), fun k hk => ?_⟩
        simpa using List.mem_takeWhile_imp hk
      · intro k hk
        simpa using Text.not_of_head?_dropWhile hk

theorem endsEscaped_of_hardBreak {s : List Marked} {token : Token} (h : token ∈ ofMarked s)
    (hbreak : token.hardBreak = true) : endsEscaped token.text = true := by
  fun_induction ofMarked s with
  | case1 s hnil => cases h
  | case2 s m r hsplit word rest gap after hard ih =>
      rcases List.mem_cons.mp h with rfl | h
      · simp only [hard, Bool.and_eq_true] at hbreak
        exact hbreak.2
      · exact ih h

theorem hardBreak_of_getLast? {s : List Marked} {token : Token}
    (h : (ofMarked s).getLast? = some token) : token.hardBreak = false := by
  fun_induction ofMarked s with
  | case1 s hnil => cases h
  | case2 s m r hsplit word rest gap after hard ih =>
      cases hrest : ofMarked rest with
      | nil =>
          have hafter : after = [] := List.dropWhile_eq_nil_iff.mpr (ofMarked_eq_nil_iff.mp hrest)
          rw [hrest] at h
          cases h
          simp [hard, hafter]
      | cons next tokens =>
          rw [hrest, List.getLast?_cons_cons, ← hrest] at h
          exact ih h

/-! ## Many tokens -/

/-- Tokens, each with the blank that is written behind it; behind the last nothing is written. -/
def written : List (Token × Char) → Text
  | [] => []
  | (token, c) :: rest => token.text ++ if rest.isEmpty then [] else c :: written rest

def reread : List (Token × Char) → List Token
  | [] => []
  | (token, c) :: rest =>
      ⟨token.text, !rest.isEmpty && (c == '\n' && endsEscaped token.text)⟩ :: reread rest

theorem map_text_reread (ps : List (Token × Char)) :
    (reread ps).map (·.text) = ps.map (·.1.text) := by
  induction ps with
  | nil => rfl
  | cons p ps ih => rw [reread, List.map_cons, ih, List.map_cons]

end Token

/-- Marked characters can be respaced into what is written of their tokens. -/
theorem Marked.exists_respaced_written {s : List Marked} {ps : List (Token × Char)}
    (hps : Token.ofMarked s = ps.map Prod.fst) (hblank : ∀ p ∈ ps, isBlank p.2 = true) :
    ∃ a trail t, s.dropWhile separates = a ++ trail ∧ (∀ m ∈ trail, m.separates = true) ∧
      Respaced a t ∧ t.map (·.char) = Token.written ps ∧ Token.ofMarked t = Token.reread ps ∧
      ∀ m, t.head? = some m → m.separates = false := by
  induction ps generalizing s with
  | nil =>
      have hnil : s.dropWhile separates = [] :=
        List.dropWhile_eq_nil_iff.mpr (Token.ofMarked_eq_nil_iff.mp hps)
      exact ⟨[], [], [], hnil, by simp, .nil, rfl, Token.ofMarked_nil, by simp⟩
  | cons p ps ih =>
      obtain ⟨token, c⟩ := p
      rw [List.forall_mem_cons] at hblank
      obtain ⟨w, rest, hsplit, hne, hw, hstop, htext, hrest⟩ := Token.exists_of_ofMarked_cons hps
      have hword : token.text = w.map (·.char) := htext
      obtain ⟨a, trail, t, hafter, htrail, hresp, hchars, htokens, hhead⟩ := ih hrest hblank.2
      have hhead' (u : List Marked) : ∀ m, (w ++ u).head? = some m → m.separates = false := by
        obtain ⟨k, w, rfl⟩ := List.exists_cons_of_ne_nil hne
        intro m hm
        cases hm
        exact hw k List.mem_cons_self
      cases ps with
      | nil =>
          refine ⟨w, rest, w, hsplit, Token.ofMarked_eq_nil_iff.mp hrest, ?_, ?_, ?_, ?_⟩
          · simpa using Respaced.nil.append_left w
          · simp [Token.written, hword]
          · simp [Token.ofMarked_word hne hw, Token.reread, hword]
          · simpa using hhead' []
      | cons q ps =>
          obtain ⟨m, t, rfl⟩ : ∃ m t', t = m :: t' := by
            apply List.exists_cons_of_ne_nil
            rintro rfl
            have htexts := Token.map_text_reread (q :: ps)
            rw [← htokens, Token.ofMarked_nil] at htexts
            cases htexts
          have hgap : rest.takeWhile separates ≠ [] := by
            cases rest with
            | nil =>
                rw [Token.ofMarked_nil] at hrest
                cases hrest
            | cons k rest => simp [hstop k rfl]
          refine ⟨w ++ (rest.takeWhile separates ++ a), trail, w ++ (⟨c, false⟩ :: m :: t), ?_,
            htrail, ?_, ?_, ?_, hhead' _⟩
          · rw [hsplit, List.append_assoc, List.append_assoc, ← hafter,
              List.takeWhile_append_dropWhile]
          · apply Respaced.append_left
            refine .gap (k := [⟨c, false⟩]) hgap (List.cons_ne_nil _ _)
              (fun m hm => List.mem_takeWhile_imp hm) ?_ hresp
            rw [List.forall_mem_singleton]
            exact separates_mk hblank.1
          · rw [Token.written, hword, List.map_append, List.map_cons, hchars]
            rfl
          · rw [Token.ofMarked_word_cons hne hw hblank.1 (hhead m rfl), htokens, ← hword]
            rfl

/-- The tokens of a text, written with any blanks between them, are read again. -/
theorem Token.ofText_written {s : Text} {ps : List (Token × Char)}
    (hps : ofText s = ps.map Prod.fst) (hblank : ∀ p ∈ ps, isBlank p.2 = true) :
    ofText (written ps) = reread ps := by
  obtain ⟨a, trail, t, hsplit, htrail, hrespaced, hchars, htokens, _⟩ :=
    Marked.exists_respaced_written hps hblank
  obtain ⟨r, hr⟩ : ∃ r, Marked.ofText r = a ++ trail := by
    have hfront : ∀ m ∈ (Marked.ofText s).takeWhile Marked.separates, m.separates = true :=
      fun m hm => List.mem_takeWhile_imp hm
    apply Marked.exists_of_ofText_append (s := s) hfront
    rw [← hsplit, List.takeWhile_append_dropWhile]
  rw [ofText, ← hchars, Marked.ofText_respaced hr htrail hrespaced, htokens]

/-! ## Lines -/

namespace Token

/-- The tokens of a line with the blanks behind them: spaces, and a line feed at its end. -/
def spaced : List Token → List (Token × Char)
  | [] => []
  | [token] => [(token, '\n')]
  | token :: next :: rest => (token, ' ') :: spaced (next :: rest)

/-- The tokens of a line as they are read again: the last one ends it hard if it ends in an odd
number of backslashes and another line follows. -/
def rereadLine (follows : Bool) : List Token → List Token
  | [] => []
  | [token] => [⟨token.text, follows && endsEscaped token.text⟩]
  | token :: next :: rest => ⟨token.text, false⟩ :: rereadLine follows (next :: rest)

def rereadLines : List (List Token) → List (List Token)
  | [] => []
  | line :: rest => rereadLine (!rest.isEmpty) line :: rereadLines rest

theorem map_fst_spaced (line : List Token) : (spaced line).map Prod.fst = line := by
  fun_induction spaced line with
  | case1 => rfl
  | case2 token => rfl
  | case3 token next rest ih => rw [List.map_cons, ih]

theorem isBlank_of_mem_spaced {line : List Token} {p : Token × Char} (h : p ∈ spaced line) :
    isBlank p.2 = true := by
  fun_induction spaced line with
  | case1 => cases h
  | case2 token =>
      rw [List.mem_singleton] at h
      rw [h]
      rfl
  | case3 token next rest ih =>
      rcases List.mem_cons.mp h with rfl | h
      · rfl
      · exact ih h

theorem isEmpty_flatMap_spaced {lines : List (List Token)} (hlines : ∀ line ∈ lines, line ≠ []) :
    (lines.flatMap spaced).isEmpty = lines.isEmpty := by
  cases lines with
  | nil => rfl
  | cons line rest =>
      rw [List.forall_mem_cons] at hlines
      obtain ⟨token, tokens, rfl⟩ := List.exists_cons_of_ne_nil hlines.1
      cases tokens <;> rfl

theorem written_spaced_append {line : List Token} (hline : line ≠ []) (ps : List (Token × Char)) :
    written (spaced line ++ ps) =
      Cluster.text line ++ (if ps.isEmpty then [] else '\n' :: written ps) := by
  fun_induction spaced line with
  | case1 => exact absurd rfl hline
  | case2 token => rw [List.singleton_append, written]; rfl
  | case3 token next rest ih =>
      have hne : (spaced (next :: rest) ++ ps).isEmpty = false := by
        cases rest <;> rfl
      rw [List.cons_append, written, hne, ih (List.cons_ne_nil _ _)]
      simp [Cluster.text, Text.joinWords]

theorem reread_spaced_append {line : List Token} (hline : line ≠ []) (ps : List (Token × Char)) :
    reread (spaced line ++ ps) = rereadLine (!ps.isEmpty) line ++ reread ps := by
  fun_induction spaced line with
  | case1 => exact absurd rfl hline
  | case2 token => rw [List.singleton_append, reread]; rfl
  | case3 token next rest ih =>
      have hspace : (' ' == '\n') = false := rfl
      rw [List.cons_append, reread, hspace, ih (List.cons_ne_nil _ _), rereadLine,
        List.cons_append, Bool.false_and, Bool.and_false]

theorem written_flatMap_spaced {lines : List (List Token)} (hlines : ∀ line ∈ lines, line ≠ []) :
    written (lines.flatMap spaced) = Text.joinLines (lines.map Cluster.text) := by
  induction lines with
  | nil => rfl
  | cons line rest ih =>
      rw [List.forall_mem_cons] at hlines
      rw [List.flatMap_cons, written_spaced_append hlines.1, isEmpty_flatMap_spaced hlines.2,
        ih hlines.2]
      cases rest with
      | nil => simp [Text.joinLines]
      | cons next rest => rfl

theorem reread_flatMap_spaced {lines : List (List Token)} (hlines : ∀ line ∈ lines, line ≠ []) :
    reread (lines.flatMap spaced) = (rereadLines lines).flatten := by
  induction lines with
  | nil => rfl
  | cons line rest ih =>
      rw [List.forall_mem_cons] at hlines
      rw [List.flatMap_cons, reread_spaced_append hlines.1, isEmpty_flatMap_spaced hlines.2,
        ih hlines.2, rereadLines, List.flatten_cons]

/-- Lines of the tokens of a text are read again. -/
theorem ofText_joinLines {s : Text} {lines : List (List Token)}
    (hflatten : lines.flatten = ofText s) (hlines : ∀ line ∈ lines, line ≠ []) :
    ofText (Text.joinLines (lines.map Cluster.text)) = (rereadLines lines).flatten := by
  rw [← written_flatMap_spaced hlines, ← reread_flatMap_spaced hlines]
  apply ofText_written (s := s)
  · simp only [List.map_flatMap, map_fst_spaced, List.flatMap_id', hflatten]
  · intro p hp
    obtain ⟨line, _, hp⟩ := List.mem_flatMap.mp hp
    exact isBlank_of_mem_spaced hp

end Token

end Tidymark
