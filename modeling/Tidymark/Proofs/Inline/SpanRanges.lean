import Tidymark.Proofs.Inline.ByteScan
import Tidymark.Proofs.Inline.Escapes

/-!
# Where code spans stand

Outside code spans a backslash makes the character behind it literal.  A run of
backticks that is not literal opens a code span exactly if a later run of its
length can close it, and the first of them does.
-/

namespace Tidymark

open Token (endsEscaped)

namespace CodeSpan

open Text (byteSize HasRun runs)

/-- A run of backticks is read from its start behind this text: nothing makes its first backtick
literal, and a backtick in front of it is literal.  A code span ends in a backtick, so the
backslashes counted here are prose. -/
structure StartsRun (front : Text) : Prop where
  unescaped : endsEscaped front = false
  behind : ∀ x, front = x ++ [backtick] → endsEscaped x = true

/-- A code span between two texts.  It opens where a run of backticks starts, both delimiters are
whole runs, and the one at its end is the first of that length. -/
structure StandsBetween (front : Text) (span : CodeSpan) (rear : Text) : Prop where
  starts : StartsRun front
  run_ne_zero : span.run ≠ 0
  content_ne_nil : span.content ≠ []
  opening : span.content.head? ≠ some backtick
  closing : span.content.getLast? ≠ some backtick
  rear : rear.head? ≠ some backtick
  first : ¬HasRun backtick span.run span.content

theorem Stands.standsBetween {front : Text} {span : CodeSpan} {rear : Text} (h : span.Stands rear)
    (hfront : StartsRun front) : span.StandsBetween front rear where
  starts := hfront
  run_ne_zero := h.run_ne_zero
  content_ne_nil := h.content_ne_nil
  opening := h.head
  closing := h.last
  rear := h.after
  first := (Text.hasRun_iff_mem_runs h.run_ne_zero).not.mpr h.run_not_mem

/-! ## Literal characters -/

/-- What stands behind a text is read as prose or code: its first character is not literal, and a
backtick there starts a run. -/
def ReadsOn (front t : Text) : Prop :=
  t ≠ [] → endsEscaped front = false ∧ (t.head? = some backtick → StartsRun front)

variable {front x r : Text}

theorem readsOn_of_ne (front : Text) {c : Char} (htick : c ≠ backtick) (hslash : c ≠ '\\')
    (t : Text) : ReadsOn (front ++ [c]) t := by
  have hfree : endsEscaped (front ++ [c]) = false := Text.endsEscaped_concat_of_ne front hslash
  refine fun _ => ⟨hfree, fun _ => ⟨hfree, fun x hx => ?_⟩⟩
  exact absurd (List.append_inj_right' hx rfl) (by simpa using htick)

theorem readsOn_escape (hfront : endsEscaped front = false) (c : Char) (t : Text) :
    ReadsOn (front ++ ['\\', c]) t := by
  have hslash : endsEscaped (front ++ ['\\']) = true := by
    rw [Text.endsEscaped_concat, hfront]
    rfl
  have hfree : endsEscaped (front ++ ['\\'] ++ [c]) = false := by
    rw [Text.endsEscaped_concat, hslash, Bool.not_true, Bool.and_false]
  rw [List.append_cons]
  refine fun _ => ⟨hfree, fun _ => ⟨hfree, fun x hx => ?_⟩⟩
  rwa [← List.append_inj_left' hx rfl]

theorem endsEscaped_append_ticks (hfront : endsEscaped front = false) (n : Nat) :
    endsEscaped (front ++ delimiter n) = false := by
  cases n with
  | zero => rwa [delimiter, List.replicate_zero, List.append_nil]
  | succ n =>
      rw [delimiter, List.replicate_succ', ← List.append_assoc]
      exact Text.endsEscaped_concat_of_ne _ (by decide)

/-- Behind a whole run of backticks. -/
theorem readsOn_delimiter (hfront : endsEscaped front = false) (n : Nat) {t : Text}
    (ht : t.head? ≠ some backtick) : ReadsOn (front ++ delimiter n) t :=
  fun _ => ⟨endsEscaped_append_ticks hfront n, fun hhead => absurd hhead ht⟩

theorem ReadsOn.of_delimiter {n : Nat} (hn : n ≠ 0) {t : Text}
    (h : ReadsOn front (delimiter n ++ t)) : StartsRun front := by
  obtain ⟨n, rfl⟩ := Nat.exists_eq_succ_of_ne_zero hn
  exact (h (List.cons_ne_nil _ _)).2 rfl

theorem Passes.readsOn (h : Passes x r) (hfront : ReadsOn front (x ++ r)) :
    ReadsOn (front ++ x) r := by
  induction h generalizing front with
  | nil => rwa [List.append_nil]
  | @escape x r c _ ih =>
      have hrest := ih (readsOn_escape (hfront (List.cons_ne_nil _ _)).1 c (x ++ r))
      rwa [List.append_assoc] at hrest
  | @char c x r htick hslash _ ih =>
      have hrest := ih (readsOn_of_ne front htick hslash (x ++ r))
      rwa [List.append_assoc] at hrest
  | slash => exact fun hne => absurd rfl hne
  | @run n x r hn hnext _ _ ih =>
      rw [List.append_assoc] at hfront
      have hrest := ih (readsOn_delimiter (hfront.of_delimiter hn).unescaped n hnext)
      rwa [List.append_assoc] at hrest

theorem readsOn_source (front : Text) {span : CodeSpan} {rear : Text} (h : span.Stands rear) :
    ReadsOn (front ++ span.source) rear := by
  obtain ⟨n, hn⟩ := Nat.exists_eq_succ_of_ne_zero h.run_ne_zero
  have hends : endsEscaped (front ++ span.source) = false := by
    rw [source, hn, delimiter, List.replicate_succ', ← List.append_assoc, ← List.append_assoc]
    exact Text.endsEscaped_concat_of_ne _ (by decide)
  exact fun _ => ⟨hends, fun hhead => absurd hhead h.after⟩

/-! ## Spans and the runs outside them -/

/-- Every range is that of a code span which stands in the text. -/
theorem Cuts.standsBetween {t : Text} {ps : List (Piece CodeSpan)} (h : Cuts t ps)
    (hfront : ReadsOn front t) : ∀ range ∈ Piece.spans source (byteSize front) ps,
      ∃ f, ∃ span : CodeSpan, ∃ rear, front ++ t = f ++ span.source ++ rear ∧
        range = ⟨byteSize f, byteSize (f ++ span.source)⟩ ∧ span.StandsBetween f rear := by
  induction h generalizing front with
  | nil => exact fun range hrange => absurd hrange List.not_mem_nil
  | @found span after ps hspan _ ih =>
      have hstarts : StartsRun front := by
        rw [source, List.append_assoc, List.append_assoc] at hfront
        exact hfront.of_delimiter hspan.run_ne_zero
      have hrest := ih (readsOn_source front hspan)
      rw [Text.byteSize_append, List.append_assoc] at hrest
      intro range hrange
      rcases List.mem_cons.mp hrange with rfl | hrange
      · refine ⟨front, span, after, (List.append_assoc _ _ _).symm, ?_, hspan.standsBetween hstarts⟩
        rw [Text.byteSize_append]
      · exact hrest range hrange
  | @plain x r ps _ hpass _ _ ih =>
      have hrest := ih (hpass.readsOn hfront)
      rw [Text.byteSize_append, List.append_assoc] at hrest
      exact hrest

theorem runLength_delimiter_append (n : Nat) {t : Text} (ht : t.head? ≠ some backtick) :
    Text.runLength backtick (delimiter n ++ t) = n := by
  rw [delimiter, Text.runLength_replicate_append, Text.runLength_eq_zero ht, Nat.add_zero]

theorem not_startsRun_inside (hfront : endsEscaped front = false) {y z : Text} {n : Nat}
    (hsplit : delimiter n = y ++ z) (hy : y ≠ []) : ¬StartsRun (front ++ y) := by
  intro hstarts
  obtain ⟨-, hticks, -⟩ := List.replicate_eq_append_iff.mp hsplit
  obtain ⟨k, hk⟩ := Nat.exists_eq_succ_of_ne_zero (List.length_pos_iff.mpr hy).ne'
  rw [hk, List.replicate_succ', ← delimiter] at hticks
  have hescaped := hstarts.behind (front ++ delimiter k) (by rw [hticks, List.append_assoc])
  rw [endsEscaped_append_ticks hfront k] at hescaped
  cases hescaped

/-- A run of backticks that starts in prose is closed by no later run. -/
theorem Passes.not_hasRun (h : Passes x r) (hfront : ReadsOn front (x ++ r)) {y z rear : Text}
    {n : Nat} (hx : x = y ++ z) (hz : z ≠ []) (hrun : z ++ r = delimiter n ++ rear) (hn : n ≠ 0)
    (hrear : rear.head? ≠ some backtick) (hstarts : StartsRun (front ++ y)) :
    ¬HasRun backtick n rear := by
  have hhead : z.head? = some backtick := by
    have hticks := congrArg List.head? hrun
    obtain ⟨k, rfl⟩ := Nat.exists_eq_succ_of_ne_zero hn
    rwa [List.head?_append_of_ne_nil _ hz] at hticks
  induction h generalizing front y with
  | nil =>
      obtain ⟨-, rfl⟩ := List.nil_eq_append_iff.mp hx
      exact absurd rfl hz
  | @escape x r c _ ih =>
      have hfree := (hfront (List.cons_ne_nil _ _)).1
      match y, hx with
      | [], hx =>
          subst hx
          cases hhead
      | [_], hx =>
          cases hx
          have hescaped := hstarts.unescaped
          rw [Text.endsEscaped_concat, hfree] at hescaped
          cases hescaped
      | _ :: _ :: y, hx =>
          cases hx
          refine ih (readsOn_escape hfree c _) rfl hrun ?_
          rwa [List.append_assoc]
  | @char c x r htick hslash _ ih =>
      cases y with
      | nil =>
          subst hx
          exact absurd (Option.some.inj hhead) htick
      | cons d y =>
          cases hx
          refine ih (readsOn_of_ne front htick hslash _) rfl hrun ?_
          rwa [List.append_assoc]
  | slash =>
      obtain ⟨-, rfl⟩ | ⟨-, rfl⟩ := List.singleton_eq_append_iff.mp hx
      · cases hhead
      · exact absurd rfl hz
  | @run m x r hm hnext hnone _ ih =>
      rw [List.append_assoc] at hfront
      have hfree := (hfront.of_delimiter hm).unescaped
      rcases List.append_eq_append_iff.mp hx with ⟨y', rfl, rfl⟩ | ⟨d, hd, rfl⟩
      · refine ih (readsOn_delimiter hfree m hnext) rfl hrun ?_
        rwa [List.append_assoc]
      · cases y with
        | cons a y => exact absurd hstarts (not_startsRun_inside hfree hd (List.cons_ne_nil a y))
        | nil =>
            rw [List.nil_append] at hd
            rw [← hd, List.append_assoc] at hrun
            have hlength := congrArg (Text.runLength backtick) hrun
            rw [runLength_delimiter_append m hnext, runLength_delimiter_append n hrear] at hlength
            subst hlength
            rw [← List.append_cancel_left hrun, Text.hasRun_iff_mem_runs hn]
            exact hnone

/-- A run of backticks outside all code spans is closed by no later run. -/
theorem Cuts.not_hasRun {t : Text} {ps : List (Piece CodeSpan)} (h : Cuts t ps)
    (hfront : ReadsOn front t) {y rear : Text} {n : Nat} (ht : t = y ++ (delimiter n ++ rear))
    (hn : n ≠ 0) (hrear : rear.head? ≠ some backtick) (hstarts : StartsRun (front ++ y))
    (hout : ∀ range ∈ Piece.spans source (byteSize front) ps,
      ¬(range.start ≤ byteSize (front ++ y) ∧ byteSize (front ++ y) < range.stop)) :
    ¬HasRun backtick n rear := by
  induction h generalizing front y with
  | nil =>
      obtain ⟨k, rfl⟩ := Nat.exists_eq_succ_of_ne_zero hn
      obtain ⟨-, hnil⟩ := List.nil_eq_append_iff.mp ht
      cases hnil
  | @found span after ps hspan _ ih =>
      rcases append_eq_append_cases ht with ⟨y', rfl, rfl⟩ | ⟨z, hz, hsource, -⟩
      · refine ih (readsOn_source front hspan) rfl ?_ ?_
        · rwa [List.append_assoc]
        · rw [List.append_assoc, Text.byteSize_append]
          exact fun range hrange => hout range (List.mem_cons_of_mem _ hrange)
      · -- The run starts in the span.
        have hbytes := Text.byteSize_pos hz
        refine absurd ⟨?_, ?_⟩ (hout _ List.mem_cons_self)
        · rw [Text.byteSize_append]
          exact Nat.le_add_right _ _
        · change byteSize (front ++ y) < byteSize front + byteSize span.source
          rw [hsource, Text.byteSize_append, Text.byteSize_append]
          omega
  | @plain x r ps _ hpass _ _ ih =>
      rcases append_eq_append_cases ht with ⟨y', rfl, rfl⟩ | ⟨z, hz, hx, hrun⟩
      · refine ih (hpass.readsOn hfront) rfl ?_ ?_
        · rwa [List.append_assoc]
        · rw [List.append_assoc, Text.byteSize_append]
          exact hout
      · exact hpass.not_hasRun hfront hx hz hrun hn hrear hstarts

/-- The ranges can be read off the bytes.  They are disjoint, in order and of whole characters,
each is that of a code span, and a run of backticks that starts outside them has no whole run of
its length behind it. -/
theorem ranges_exact (s : Text) :
    ByteScan.scan (Text.encode s) = ranges s ∧
      (ranges s).Pairwise (fun range next => range.stop ≤ next.start) ∧
      (∀ range ∈ ranges s, ∃ front, ∃ span : CodeSpan, ∃ rear,
        s = front ++ span.source ++ rear ∧
          range = ⟨byteSize front, byteSize (front ++ span.source)⟩ ∧
          span.StandsBetween front rear) ∧
      ∀ front n rear, s = front ++ delimiter n ++ rear → n ≠ 0 → rear.head? ≠ some backtick →
        StartsRun front →
        (∀ range ∈ ranges s, ¬(range.start ≤ byteSize front ∧ byteSize front < range.stop)) →
        ¬HasRun backtick n rear := by
  have hcuts := cuts_pieces s
  have hfront : ReadsOn [] s :=
    fun _ => ⟨rfl, fun _ => ⟨rfl, fun x hx => absurd hx (by simp)⟩⟩
  refine ⟨scan_encode s, (Piece.pairwise_spans 0 (pieces s)).1, hcuts.standsBetween hfront, ?_⟩
  intro front n rear hs hn hrear hstarts hout
  rw [List.append_assoc] at hs
  exact hcuts.not_hasRun hfront hs hn hrear hstarts hout

example : ranges "a `b` ``c ` d`` \\`e` `open".toList = [⟨2, 5⟩, ⟨6, 15⟩, ⟨19, 22⟩] := by
  decide +kernel

end CodeSpan

end Tidymark
