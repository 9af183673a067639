import Tidymark.Proofs.Inline.Tightened

/-!
# Emphasis where it stands

A text is cut into the emphasis between underscores that gives way to
asterisks and what stands between: guarded stretches, and plain text in which
no emphasis is found.  Cleanup rewrites the ends of each emphasis and nothing
else.
-/

namespace Tidymark

/-- Emphasis in a text: what stands in front of it, and what between its ends. -/
structure Emphasis where
  front : Text
  body : Text

namespace Emphasis

def lined (body : Text) : Text := '_' :: body ++ ['_']

def starred (body : Text) : Text := '*' :: body ++ ['*']

/-- The bodies of the emphasis in a text and what stands between. -/
def pieces (inWord : Bool) : Text → List (Piece Text)
  | [] => []
  | c :: s =>
      if c = '_' && !inWord then
        match _h : Text.splitAt? '_' s with
        | some (body, rest) =>
            if !body.isEmpty && endsWord rest then .found body :: pieces true rest
            else Piece.consPlain [c] (pieces true s)
        | none => Piece.consPlain [c] (pieces true s)
      else Piece.consPlain [c] (pieces (isWord c) s)
termination_by s => s.length
decreasing_by
  · rw [(Text.splitAt?_eq_some_iff.mp _h).1]
    simp only [List.length_append, List.length_cons]
    omega
  · simp
  · simp
  · simp

theorem textOf_pieces (inWord : Bool) (s : Text) : Piece.textOf lined (pieces inWord s) = s := by
  fun_induction pieces inWord s with
  | case1 => rfl
  | case2 inWord c s hc body rest hsplit hends ih =>
      rw [Bool.and_eq_true, decide_eq_true_eq] at hc
      rw [hc.1, (Text.splitAt?_eq_some_iff.mp hsplit).1, Piece.textOf, ih, Piece.text, lined]
      simp
  | case3 inWord c s hc body rest hsplit hends ih =>
      rw [Piece.textOf_consPlain, ih, List.singleton_append]
  | case4 inWord c s hc hsplit ih => rw [Piece.textOf_consPlain, ih, List.singleton_append]
  | case5 inWord c s hc ih => rw [Piece.textOf_consPlain, ih, List.singleton_append]

/-- Asterisks take the place of the underscores around each body. -/
theorem starAll_eq (inWord : Bool) (s : Text) :
    starAll inWord s = Piece.textOf starred (pieces inWord s) := by
  fun_induction pieces inWord s with
  | case1 =>
      rw [starAll]
      rfl
  | case2 inWord c s hc body rest hsplit hends ih =>
      rw [starAll, if_pos hc]
      split
      · next hagain =>
          cases hsplit.symm.trans hagain
          rw [if_pos hends, ih, Piece.textOf, Piece.text, starred]
          simp
      · next hagain => cases hsplit.symm.trans hagain
  | case3 inWord c s hc body rest hsplit hends ih =>
      rw [starAll, if_pos hc, Piece.textOf_consPlain, ← ih]
      split
      · next hagain =>
          cases hsplit.symm.trans hagain
          rw [if_neg hends]
          rfl
      · rfl
  | case4 inWord c s hc hsplit ih =>
      rw [starAll, if_pos hc, Piece.textOf_consPlain, ← ih]
      split
      · next hagain => cases hsplit.symm.trans hagain
      · rfl
  | case5 inWord c s hc ih =>
      rw [starAll, if_neg hc, Piece.textOf_consPlain, ← ih]
      rfl

/-! ## Outside guarded stretches -/

/-- The emphasis in a plain stretch; in a guarded one none is looked for. -/
def ofGuarded : Piece Text → List (Piece Text)
  | .plain s => pieces false s
  | .found s => [.plain s]

/-- The emphasis outside guarded stretches and what stands between. -/
def unguarded (s : Text) : List (Piece Text) := (Guarded.pattern.pieces s).flatMap ofGuarded

/-- The emphasis in pieces of a text that stand behind `front`. -/
def behind (front : Text) : List (Piece Text) → List Emphasis
  | [] => []
  | .plain s :: ps => behind (front ++ s) ps
  | .found body :: ps => ⟨front, body⟩ :: behind (front ++ lined body) ps

/-- The emphasis that cleanup finds in plain prose with trimmed labels. -/
def findAll (s : Text) : List Emphasis := behind [] (unguarded s)

theorem textOf_unguarded (s : Text) : Piece.textOf lined (unguarded s) = s := by
  have hpieces (ps : List (Piece Text)) :
      Piece.textOf lined (ps.flatMap ofGuarded) = Piece.textOf id ps := by
    induction ps with
    | nil => rfl
    | cons p ps ih =>
        rw [List.flatMap_cons, Piece.textOf_append, ih]
        cases p with
        | plain t =>
            rw [ofGuarded, textOf_pieces]
            rfl
        | found f => simp [ofGuarded, Piece.textOf, Piece.text]
  rw [unguarded, hpieces]
  exact Guarded.pattern.textOf_pieces s

theorem stars_eq (s : Text) : Cleanup.stars s = Piece.textOf starred (unguarded s) := by
  rw [Cleanup.stars, unguarded]
  induction Guarded.pattern.pieces s with
  | nil => rfl
  | cons p ps ih =>
      rw [List.flatMap_cons, Piece.textOf_append, ← ih]
      cases p with
      | plain t => rw [Piece.mapText, starAll_eq, ofGuarded]
      | found f => simp [ofGuarded, Piece.mapText, Piece.textOf, Piece.text]

end Emphasis

end Tidymark
