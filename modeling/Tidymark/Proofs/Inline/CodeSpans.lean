import Tidymark.Proofs.Inline.Tightened

/-!
# Code spans as they stand

A text is cut into code spans and the prose between them in one way only.  A
span stands between two runs of its length with no such run inside; prose is
made of escaped characters, of others that are no backticks, and of runs that
no later run of the same length closes.
-/

namespace Tidymark

namespace CodeSpan

open Text (runs runInduction)

/-! ## The next run of one length -/

theorem splitAtRun?_cons {c : Char} (hc : c ≠ backtick) (run : Nat) (s : Text) :
    splitAtRun? run (c :: s) = (splitAtRun? run s).map fun (a, b) => (c :: a, b) := by
  rw [splitAtRun?, if_neg hc]

theorem exists_delimiter_eq {n : Nat} (hn : n ≠ 0) (s : Text) :
    ∃ r, delimiter n ++ s = backtick :: r ∧
      (s.head? ≠ some backtick → Text.runLength backtick r + 1 = n ∧ r.drop (n - 1) = s) := by
  obtain ⟨m, rfl⟩ := Nat.exists_eq_succ_of_ne_zero hn
  refine ⟨List.replicate m backtick ++ s, rfl, fun hs => ?_⟩
  rw [Text.runLength_replicate_append, Text.runLength_eq_zero hs]
  exact ⟨rfl, List.drop_left' List.length_replicate⟩

theorem splitAtRun?_run {n : Nat} (hn : n ≠ 0) {s : Text} (hs : s.head? ≠ some backtick)
    (run : Nat) : splitAtRun? run (delimiter n ++ s) =
      if n = run then some ([], s)
      else (splitAtRun? run s).map fun (a, b) => (delimiter n ++ a, b) := by
  obtain ⟨r, hr, hread⟩ := exists_delimiter_eq hn s
  obtain ⟨hlength, hdrop⟩ := hread hs
  rw [hr, splitAtRun?, if_pos rfl]
  simp only [hlength, hdrop]

/-- A run is looked for in vain exactly if no run has its length. -/
theorem splitAtRun?_eq_none_iff {run : Nat} {s : Text} :
    splitAtRun? run s = none ↔ run ∉ runs backtick s := by
  induction s using runInduction backtick with
  | nil => simp [splitAtRun?]
  | char c s hc ih => rw [splitAtRun?_cons hc, Option.map_eq_none_iff, ih, Text.runs_cons hc]
  | run n s hn hs ih =>
      rw [← delimiter, splitAtRun?_run hn hs, delimiter, Text.runs_run hn hs, List.mem_cons, not_or,
        ← ih]
      by_cases hrun : n = run
      · simp [hrun]
      · simp [hrun, Ne.symm hrun]

theorem of_splitAtRun? {run : Nat} (hrun : run ≠ 0) {s a b : Text}
    (h : splitAtRun? run s = some (a, b)) :
    a.getLast? ≠ some backtick ∧ b.head? ≠ some backtick ∧ run ∉ runs backtick a := by
  induction s using runInduction backtick generalizing a with
  | nil =>
      rw [splitAtRun?] at h
      cases h
  | char c s hc ih =>
      rw [splitAtRun?_cons hc] at h
      obtain ⟨⟨a, b⟩, hs, heq⟩ := Option.map_eq_some_iff.mp h
      cases heq
      obtain ⟨hlast, hhead, hnot⟩ := ih hs
      refine ⟨?_, hhead, by rwa [Text.runs_cons hc]⟩
      cases a with
      | nil => simpa using hc
      | cons d a => rwa [List.getLast?_cons_cons]
  | run n s hn hs ih =>
      rw [← delimiter, splitAtRun?_run hn hs] at h
      split at h
      · cases h
        exact ⟨by simp, hs, by simp⟩
      · next hne =>
          obtain ⟨⟨a, b⟩, hsplit, heq⟩ := Option.map_eq_some_iff.mp h
          cases heq
          obtain ⟨hlast, hhead, hnot⟩ := ih hsplit
          have hsource := append_of_splitAtRun? hsplit
          have ha : a ≠ [] := by
            rintro rfl
            obtain ⟨r, hr, -⟩ := exists_delimiter_eq hrun b
            rw [List.nil_append, hr] at hsource
            rw [hsource] at hs
            exact hs rfl
          obtain ⟨d, a, rfl⟩ := List.exists_cons_of_ne_nil ha
          have hd : (d :: a).head? ≠ some backtick := by
            rw [hsource] at hs
            exact hs
          refine ⟨?_, hhead, ?_⟩
          · rwa [List.getLast?_append, List.getLast?_cons, Option.some_or,
              ← List.getLast?_cons]
          · rw [delimiter, Text.runs_run hn hd, List.mem_cons, not_or]
            exact ⟨Ne.symm hne, hnot⟩

/-- The first whole run of its length is found. -/
theorem splitAtRun?_append {run : Nat} (hrun : run ≠ 0) {a b : Text}
    (ha : a.getLast? ≠ some backtick) (hb : b.head? ≠ some backtick)
    (hnot : run ∉ runs backtick a) : splitAtRun? run (a ++ delimiter run ++ b) = some (a, b) := by
  induction a using runInduction backtick with
  | nil => rw [List.nil_append, splitAtRun?_run hrun hb, if_pos rfl]
  | char c a hc ih =>
      rw [Text.runs_cons hc] at hnot
      have hlast : a.getLast? ≠ some backtick := by
        intro hlast
        rw [List.getLast?_cons, hlast] at ha
        exact ha rfl
      rw [List.cons_append, List.cons_append, splitAtRun?_cons hc, ih hlast hnot]
      rfl
  | run n a hn hhead ih =>
      rw [Text.runs_run hn hhead, List.mem_cons, not_or] at hnot
      obtain ⟨d, a, rfl⟩ : ∃ d r, a = d :: r := by
        apply List.exists_cons_of_ne_nil
        rintro rfl
        rw [List.append_nil, List.getLast?_replicate, if_neg hn] at ha
        exact ha rfl
      have hlast : (d :: a).getLast? ≠ some backtick := by
        rwa [List.getLast?_append, List.getLast?_cons, Option.some_or, ← List.getLast?_cons] at ha
      have hrest : (d :: a ++ delimiter run ++ b).head? ≠ some backtick := hhead
      rw [← delimiter, List.append_assoc, List.append_assoc, ← List.append_assoc (d :: a),
        splitAtRun?_run hn hrest, if_neg (Ne.symm hnot.1), ih hlast hnot.2]
      rfl

/-! ## From left to right -/

theorem pieces_escape (c : Char) (s : Text) :
    pieces ('\\' :: c :: s) = Piece.consPlain ['\\', c] (pieces s) := by
  rw [pieces]

theorem pieces_cons {c : Char} (hc : c ≠ backtick) {s : Text} (hs : c = '\\' → s = []) :
    pieces (c :: s) = Piece.consPlain [c] (pieces s) := by
  rw [pieces]
  · rw [if_neg hc]
  · rintro d r rfl hr
    rw [hs rfl] at hr
    cases hr

theorem pieces_run {n : Nat} (hn : n ≠ 0) {s : Text} (hs : s.head? ≠ some backtick) :
    pieces (delimiter n ++ s) =
      match splitAtRun? n s with
      | some (content, after) => .found ⟨n, content⟩ :: pieces after
      | none => Piece.consPlain (delimiter n) (pieces s) := by
  obtain ⟨r, hr, hread⟩ := exists_delimiter_eq hn s
  obtain ⟨hlength, hdrop⟩ := hread hs
  rw [hr, pieces]
  · simp only [if_true, hlength, hdrop]
    split
    · next h =>
        rw [hlength, hdrop] at h
        rw [h]
    · next h =>
        rw [hlength, hdrop] at h
        rw [h]
  · intro c t hc
    cases hc

/-! ## One way to cut a text -/

/-- A code span in front of a text: its delimiters are whole runs of backticks, and no run of
their length stands between them. -/
structure Stands (span : CodeSpan) (after : Text) : Prop where
  run_ne_zero : span.run ≠ 0
  content_ne_nil : span.content ≠ []
  head : span.content.head? ≠ some backtick
  last : span.content.getLast? ≠ some backtick
  run_not_mem : span.run ∉ runs backtick span.content
  after : after.head? ≠ some backtick

/-- A text that is read as prose in front of `r`. -/
inductive Passes : Text → Text → Prop where
  | nil {r : Text} : Passes [] r
  | escape {x r : Text} (c : Char) (h : Passes x r) : Passes ('\\' :: c :: x) r
  | char {c : Char} {x r : Text} (htick : c ≠ backtick) (hslash : c ≠ '\\') (h : Passes x r) :
      Passes (c :: x) r
  | slash : Passes ['\\'] []
  | run {n : Nat} {x r : Text} (hn : n ≠ 0) (hnext : (x ++ r).head? ≠ some backtick)
      (hrun : n ∉ runs backtick (x ++ r)) (h : Passes x r) : Passes (delimiter n ++ x) r

/-- The code spans of a text and the prose between them. -/
inductive Cuts : Text → List (Piece CodeSpan) → Prop where
  | nil : Cuts [] []
  | found {span : CodeSpan} {after : Text} {ps : List (Piece CodeSpan)}
      (hspan : span.Stands after) (h : Cuts after ps) :
      Cuts (span.source ++ after) (.found span :: ps)
  | plain {x r : Text} {ps : List (Piece CodeSpan)} (hx : x ≠ []) (hpass : Passes x r)
      (hnext : ∀ y qs, ps ≠ .plain y :: qs) (h : Cuts r ps) : Cuts (x ++ r) (.plain x :: ps)

namespace Passes

variable {x y r : Text}

theorem append (h : Passes x (y ++ r)) (h' : Passes y r) : Passes (x ++ y) r := by
  generalize hz : y ++ r = z at h
  induction h with
  | nil => exact h'
  | escape c _ ih => exact .escape c (ih hz)
  | char htick hslash _ ih => exact .char htick hslash (ih hz)
  | slash =>
      obtain ⟨rfl, rfl⟩ := List.append_eq_nil_iff.mp hz
      exact .slash
  | run hn hnext hrun _ ih =>
      subst hz
      rw [← List.append_assoc] at hnext hrun
      rw [List.append_assoc]
      exact .run hn hnext hrun (ih rfl)

theorem of_cons {c : Char} (h : Passes (c :: x) r) (htick : c ≠ backtick) (hslash : c ≠ '\\') :
    Passes x r := by
  generalize hz : c :: x = z at h
  cases h with
  | nil => cases hz
  | escape d h =>
      cases hz
      exact absurd rfl hslash
  | char _ _ h =>
      cases hz
      exact h
  | slash =>
      cases hz
      exact absurd rfl hslash
  | @run n x' _ hn =>
      obtain ⟨m, rfl⟩ := Nat.exists_eq_succ_of_ne_zero hn
      cases hz
      exact absurd rfl htick

theorem pieces_append (h : Passes x r) (hx : x ≠ []) :
    pieces (x ++ r) = Piece.consPlain x (pieces r) := by
  induction h with
  | nil => exact absurd rfl hx
  | @escape x r c _ ih =>
      rw [List.cons_append, List.cons_append, pieces_escape]
      by_cases hx : x = []
      · subst hx
        rfl
      · rw [ih hx, Piece.consPlain_consPlain]
        rfl
  | @char c x r htick hslash _ ih =>
      rw [List.cons_append, pieces_cons htick fun hc => absurd hc hslash]
      by_cases hx : x = []
      · subst hx
        rfl
      · rw [ih hx, Piece.consPlain_consPlain]
        rfl
  | slash => exact pieces_cons (by decide) fun _ => rfl
  | @run n x r hn hnext hrun _ ih =>
      rw [List.append_assoc, pieces_run hn hnext, splitAtRun?_eq_none_iff.mpr hrun]
      by_cases hx : x = []
      · subst hx
        simp
      · simp only
        rw [ih hx, Piece.consPlain_consPlain]

theorem of_not_mem : ∀ {x : Text}, backtick ∉ x → Passes x []
  | [], _ => .nil
  | [c], h => by
      by_cases hslash : c = '\\'
      · rw [hslash]
        exact .slash
      · exact .char (fun hc => h (by simp [hc])) hslash .nil
  | c :: d :: x, h => by
      by_cases hslash : c = '\\'
      · rw [hslash]
        exact .escape d (of_not_mem fun hx => h (by simp [hx]))
      · exact .char (fun hc => h (by simp [hc])) hslash (of_not_mem fun hx => h (by simp_all))

end Passes

theorem Cuts.consPlain {x r : Text} {ps : List (Piece CodeSpan)} (hx : x ≠ [])
    (hpass : Passes x r) (h : Cuts r ps) : Cuts (x ++ r) (Piece.consPlain x ps) := by
  cases h with
  | nil => exact .plain hx hpass (fun y qs h => by cases h) .nil
  | found hspan h => exact .plain hx hpass (fun y qs h => by cases h) (.found hspan h)
  | @plain y r ps _ hy hnext h =>
      rw [← List.append_assoc]
      exact .plain (List.append_ne_nil_of_left_ne_nil hx y) (hpass.append hy) hnext h

theorem stands_of_splitAtRun? {n : Nat} (hn : n ≠ 0) {rest content after : Text}
    (hrest : rest.head? ≠ some backtick) (h : splitAtRun? n rest = some (content, after)) :
    Stands ⟨n, content⟩ after := by
  obtain ⟨hlast, hafter, hnot⟩ := of_splitAtRun? hn h
  have hsource := append_of_splitAtRun? h
  have hne : content ≠ [] := by
    rintro rfl
    obtain ⟨r, hr, -⟩ := exists_delimiter_eq hn after
    rw [List.nil_append, hr] at hsource
    rw [hsource] at hrest
    exact hrest rfl
  obtain ⟨c, content, rfl⟩ := List.exists_cons_of_ne_nil hne
  refine ⟨hn, hne, ?_, hlast, hnot, hafter⟩
  rw [hsource] at hrest
  exact hrest

/-- The reader cuts a text into its code spans and the prose between them. -/
theorem cuts_pieces (s : Text) : Cuts s (pieces s) := by
  fun_induction pieces s with
  | case1 => exact .nil
  | case2 c r ih => exact ih.consPlain (x := ['\\', c]) (by simp) (.escape c .nil)
  | case3 r n rest content after h _ ih =>
      have hspan : Stands ⟨n, content⟩ after :=
        stands_of_splitAtRun? (Nat.succ_ne_zero _) (Text.head?_drop_runLength backtick r) h
      have hsource : backtick :: r = source ⟨n, content⟩ ++ after := by
        rw [← delimiter_append_drop r, source, List.append_assoc, List.append_assoc,
          ← List.append_assoc content, ← append_of_splitAtRun? h]
        rfl
      rw [hsource]
      exact .found hspan ih
  | case4 r n rest h _ ih =>
      have hrun : n ∉ runs backtick rest := splitAtRun?_eq_none_iff.mp h
      have hpass : Passes (delimiter n ++ []) rest :=
        .run (Nat.succ_ne_zero _) (Text.head?_drop_runLength backtick r) hrun .nil
      have hcuts := ih.consPlain (by simp [delimiter, n]) hpass
      rw [List.append_nil] at hcuts
      rwa [← delimiter_append_drop r]
  | case5 c r hslash hc ih =>
      by_cases hbackslash : c = '\\'
      · subst hbackslash
        cases r with
        | nil => exact ih.consPlain (x := ['\\']) (by simp) .slash
        | cons d r => exact absurd rfl (hslash d r rfl)
      · exact ih.consPlain (x := [c]) (by simp) (.char hc hbackslash .nil)

/-- A text is cut in no other way. -/
theorem Cuts.pieces_eq {s : Text} {ps : List (Piece CodeSpan)} (h : Cuts s ps) :
    pieces s = ps := by
  induction h with
  | nil => rw [pieces]
  | @found span after ps hspan _ ih =>
      have hhead : (span.content ++ delimiter span.run ++ after).head? ≠ some backtick := by
        obtain ⟨c, content, hcontent⟩ := List.exists_cons_of_ne_nil hspan.content_ne_nil
        have hc := hspan.head
        rw [hcontent] at hc ⊢
        exact hc
      rw [source, List.append_assoc, List.append_assoc, ← List.append_assoc span.content,
        pieces_run hspan.run_ne_zero hhead,
        splitAtRun?_append hspan.run_ne_zero hspan.last hspan.after hspan.run_not_mem]
      simp only
      rw [ih]
  | @plain x r ps hx hpass hnext _ ih =>
      rw [hpass.pieces_append hx, ih]
      cases ps with
      | nil => rfl
      | cons p ps =>
          cases p with
          | plain y => exact absurd rfl (hnext y ps)
          | found span => rfl

end CodeSpan

end Tidymark
