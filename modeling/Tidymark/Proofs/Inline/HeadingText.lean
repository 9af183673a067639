import Tidymark.Proofs.Inline.Spans
import Tidymark.Proofs.Text.Collapsed

/-!
# Code spans in heading texts

Code spans part a text into gaps: one in front of each span, and one behind
the last.  In the text of a heading the blanks of the gaps are collapsed and
the line feeds in the spans are spaces; it is cut into spans and gaps where
the text was.
-/

namespace Tidymark

namespace CodeSpan

open Text (Collapsed runs)

/-- The prose in front of each code span of a text, and that behind the last. -/
def gaps (s : Text) : List Text := Piece.gaps (pieces s)

/-- The text of gaps and code spans, in turns. -/
def weave (gaps : List Text) (spans : List CodeSpan) : Text :=
  Piece.textOf source (Piece.interleave gaps spans)

theorem weave_gaps (s : Text) : weave (gaps s) (findAll s) = s :=
  (Piece.textOf_interleave _).trans (textOf_pieces s)

theorem weave_nil (gap : Text) : weave [gap] [] = gap := List.append_nil gap

theorem weave_cons (gap : Text) (gaps : List Text) (span : CodeSpan) (spans : List CodeSpan) :
    weave (gap :: gaps) (span :: spans) = gap ++ (span.source ++ weave gaps spans) := rfl

theorem weave_append (s gap : Text) (gaps : List Text) (spans : List CodeSpan) :
    weave ((s ++ gap) :: gaps) spans = s ++ weave (gap :: gaps) spans :=
  Piece.textOf_interleave_cons s gap gaps spans

/-! ## Texts cut into gaps and spans -/

/-- Each gap is prose, and each span stands in front of what follows it. -/
inductive Woven : List Text → List CodeSpan → Prop where
  | last {gap : Text} (h : Passes gap []) : Woven [gap] []
  | span {gap : Text} {gaps : List Text} {span : CodeSpan} {spans : List CodeSpan}
      (hpass : Passes gap (span.source ++ weave gaps spans))
      (hspan : span.Stands (weave gaps spans)) (h : Woven gaps spans) :
      Woven (gap :: gaps) (span :: spans)

namespace Woven

variable {gaps : List Text} {spans : List CodeSpan}

theorem length_eq (h : Woven gaps spans) : gaps.length = spans.length + 1 := by
  induction h with
  | last => rfl
  | span _ _ _ ih => rw [List.length_cons, ih, List.length_cons]

theorem run_ne_zero (h : Woven gaps spans) : ∀ span ∈ spans, span.run ≠ 0 := by
  induction h with
  | last => exact List.forall_mem_nil _
  | span _ hspan _ ih => exact List.forall_mem_cons.mpr ⟨hspan.run_ne_zero, ih⟩

theorem append {x gap : Text} (h : Woven (gap :: gaps) spans)
    (hpass : Passes x (weave (gap :: gaps) spans)) : Woven ((x ++ gap) :: gaps) spans := by
  cases h with
  | last h =>
      rw [weave_nil, ← List.append_nil gap] at hpass
      exact .last (hpass.append h)
  | span hgap hspan h => exact .span (hpass.append hgap) hspan h

end Woven

theorem Cuts.textOf_eq {s : Text} {ps : List (Piece CodeSpan)} (h : Cuts s ps) :
    Piece.textOf source ps = s := by
  rw [← h.pieces_eq, textOf_pieces]

theorem Cuts.woven {s : Text} {ps : List (Piece CodeSpan)} (h : Cuts s ps) :
    Woven (Piece.gaps ps) (Piece.finds ps) := by
  induction h with
  | nil => exact .last .nil
  | @found span after ps hspan h ih =>
      have hafter : weave (Piece.gaps ps) (Piece.finds ps) = after :=
        (Piece.textOf_interleave ps).trans h.textOf_eq
      exact .span .nil (hafter ▸ hspan) ih
  | @plain x r ps _ hpass _ h ih =>
      have hr : weave (Piece.gaps ps) (Piece.finds ps) = r :=
        (Piece.textOf_interleave ps).trans h.textOf_eq
      obtain ⟨gap, rest, hgaps⟩ := Piece.exists_gaps_eq_cons ps
      rw [hgaps] at ih hr
      rw [Piece.gaps, hgaps, List.modifyHead_cons, Piece.finds]
      exact ih.append (hr ▸ hpass)

theorem Passes.findAll_append {x r : Text} (h : Passes x r) : findAll (x ++ r) = findAll r := by
  by_cases hx : x = []
  · rw [hx, List.nil_append]
  · rw [findAll, h.pieces_append hx, Piece.finds_consPlain, findAll]

theorem Passes.gaps_append {x r : Text} (h : Passes x r) :
    gaps (x ++ r) = (gaps r).modifyHead (x ++ ·) := by
  by_cases hx : x = []
  · obtain ⟨gap, rest, hgaps⟩ := Piece.exists_gaps_eq_cons (pieces r)
    rw [hx, List.nil_append, gaps, hgaps, List.modifyHead_cons, List.nil_append]
  · rw [gaps, h.pieces_append hx, Piece.gaps_consPlain, gaps]

theorem Stands.pieces_append {span : CodeSpan} {after : Text} (h : span.Stands after) :
    pieces (span.source ++ after) = .found span :: pieces after :=
  (Cuts.found h (cuts_pieces after)).pieces_eq

/-- What is woven is cut into its gaps and its spans. -/
theorem Woven.cut {gaps : List Text} {spans : List CodeSpan} (h : Woven gaps spans) :
    findAll (weave gaps spans) = spans ∧ CodeSpan.gaps (weave gaps spans) = gaps := by
  induction h with
  | @last gap h =>
      have hfinds := h.findAll_append
      have hgaps := h.gaps_append
      rw [List.append_nil] at hfinds hgaps
      rw [weave_nil, hfinds, hgaps, findAll, CodeSpan.gaps, pieces]
      exact ⟨rfl, congrArg (· :: []) (List.append_nil gap)⟩
  | @span gap gaps span spans hpass hspan _ ih =>
      obtain ⟨hfinds, hgaps⟩ := ih
      rw [weave_cons, hpass.findAll_append, hpass.gaps_append, findAll, CodeSpan.gaps,
        hspan.pieces_append, Piece.finds, Piece.gaps, ← findAll, ← CodeSpan.gaps, hfinds, hgaps,
        List.modifyHead_cons, List.append_nil]
      exact ⟨rfl, rfl⟩

/-! ## Collapsed gaps -/

/-- A code span with the line feeds in it made spaces. -/
def unfold (span : CodeSpan) : CodeSpan := { span with content := Text.unfoldLines span.content }

theorem source_unfold (span : CodeSpan) : span.unfold.source = Text.unfoldLines span.source := by
  have hticks : Text.unfoldLines (delimiter span.run) = delimiter span.run := by
    rw [delimiter, Text.unfoldLines, List.map_replicate]
    rfl
  rw [source, source, Text.unfoldLines_append, Text.unfoldLines_append, hticks]
  rfl

theorem Passes.collapsed {last behind : Bool} {x y r r' : Text} (h : Passes x r)
    (hxy : Collapsed last behind x y) (hlast : last = true → r = [])
    (hr : ∀ q, Collapsed true q r r') : Passes y r' := by
  induction h generalizing behind y with
  | nil =>
      rw [hxy.eq_nil_right]
      exact .nil
  | escape c _ ih =>
      obtain ⟨y, rfl, hrest⟩ := hxy.exists_of_cons rfl
      cases hrest with
      | char _ hrest => exact .escape c (ih hrest hlast hr)
      | blank _ _ hrest => exact .escape _ (ih hrest hlast hr)
      | trail _ hend _ =>
          obtain rfl := hlast hend
          rw [(hr true).eq_nil_right]
          exact .slash
  | char htick hslash _ ih =>
      cases hxy with
      | char _ hrest => exact .char htick hslash (ih hrest hlast hr)
      | blank _ hd hrest =>
          refine .char (Text.ne_backtick_of_isBlank hd) ?_ (ih hrest hlast hr)
          rintro rfl
          cases hd
      | drop _ hrest => exact ih hrest hlast hr
      | trail _ _ _ => exact .nil
  | slash =>
      obtain ⟨y, rfl, hrest⟩ := hxy.exists_of_cons rfl
      rw [hrest.eq_nil_right, (hr true).eq_nil_right]
      exact .slash
  | @run n x r hn hnext hrun _ ih =>
      obtain ⟨y, rfl, hrest⟩ := hxy.exists_of_delimiter hn
      have hwhole : Collapsed true false (x ++ r) (y ++ r') := hrest.append hlast hr
      refine .run hn ?_ ?_ (ih hrest hlast hr)
      · rwa [ne_eq, ← hwhole.head?_eq_backtick_iff]
      · rwa [← hwhole.runs_eq]

/-- A span with its lines joined stands where the span stood. -/
theorem Stands.unfold {span : CodeSpan} {after after' : Text} (h : span.Stands after)
    (hafter : Collapsed true false after after') : span.unfold.Stands after' := by
  have hcontent : Collapsed false false span.content span.unfold.content := .unfoldLines _ _
  refine ⟨h.run_ne_zero, ?_, ?_, ?_, ?_, ?_⟩
  · rw [ne_eq, CodeSpan.unfold, Text.unfoldLines, List.map_eq_nil_iff]
    exact h.content_ne_nil
  · rw [ne_eq, ← hcontent.head?_eq_backtick_iff]
    exact h.head
  · rw [CodeSpan.unfold, Text.unfoldLines, List.getLast?_map]
    intro hlast
    obtain ⟨c, hc, hmap⟩ := Option.map_eq_some_iff.mp hlast
    split at hmap
    · cases hmap
    · exact h.last (hmap ▸ hc)
  · rw [← hcontent.runs_eq]
    exact h.run_not_mem
  · rw [ne_eq, ← hafter.head?_eq_backtick_iff]
    exact h.after

/-- Gaps collapsed one by one; only in front of the first may nothing stand, and only the last
one may be the end of the text. -/
inductive CollapsedGaps (last : Bool) : Bool → List Text → List Text → Prop where
  | single {behind : Bool} {gap gap' : Text} (h : Collapsed last behind gap gap') :
      CollapsedGaps last behind [gap] [gap']
  | cons {behind : Bool} {gap gap' : Text} {gaps gaps' : List Text}
      (hgap : Collapsed false behind gap gap') (h : CollapsedGaps last false gaps gaps') :
      CollapsedGaps last behind (gap :: gaps) (gap' :: gaps')

/-- Collapsed gaps are prose around the spans with their lines joined. -/
theorem Woven.collapsed {gaps gaps' : List Text} {spans : List CodeSpan} {last behind : Bool}
    (h : Woven gaps spans) (hgaps : CollapsedGaps last behind gaps gaps') :
    Woven gaps' (spans.map unfold) ∧
      Collapsed true behind (weave gaps spans) (weave gaps' (spans.map unfold)) := by
  induction h generalizing behind gaps' with
  | last hpass =>
      cases hgaps with
      | single hgap =>
          have hend (q : Bool) : Collapsed true q [] [] := .nil
          have hwhole := hgap.append (fun _ => rfl) hend
          rw [List.append_nil, List.append_nil] at hwhole
          rw [List.map_nil, weave_nil, weave_nil]
          exact ⟨.last (hpass.collapsed hgap (fun _ => rfl) hend), hwhole⟩
      | cons _ h => cases h
  | @span gap gaps span spans hpass hspan h ih =>
      cases hgaps with
      | single _ => cases h
      | cons hgap hgaps =>
          obtain ⟨hwoven, hweave⟩ := ih hgaps
          have hnot {s : Text} (h : false = true) : s = [] := absurd h Bool.false_ne_true
          have hsource (q : Bool) : Collapsed false q span.source span.unfold.source :=
            span.source_unfold ▸ .unfoldLines _ q
          have hrest (q : Bool) := (hsource q).append hnot hweave.anywhere
          rw [List.map_cons, weave_cons, weave_cons]
          exact ⟨.span (hpass.collapsed hgap hnot hrest) (hspan.unfold hweave) hwoven,
            hgap.append hnot hrest⟩

/-- The last gap without the blanks at its end. -/
def trimLast : List Text → List Text
  | [] => []
  | [gap] => [Text.trimEnd gap]
  | gap :: next :: gaps => gap :: trimLast (next :: gaps)

/-- The gaps without the blanks at the two ends of the text. -/
def trimEnds (gaps : List Text) : List Text := trimLast (gaps.modifyHead Text.trimStart)

theorem trimLast_cons (gap : Text) {gaps : List Text} (hne : gaps ≠ []) :
    trimLast (gap :: gaps) = gap :: trimLast gaps := by
  cases gaps with
  | nil => exact absurd rfl hne
  | cons next gaps => rfl

namespace CollapsedGaps

variable {last behind : Bool} {gaps gaps' : List Text}

theorem squeeze (hne : gaps ≠ []) : CollapsedGaps last false gaps (gaps.map Text.squeeze) := by
  induction gaps with
  | nil => exact absurd rfl hne
  | cons gap gaps ih =>
      cases gaps with
      | nil => exact .single (.squeeze gap)
      | cons next gaps => exact .cons (.squeeze gap) (ih (List.cons_ne_nil _ _))

theorem trimStart (h : CollapsedGaps last behind gaps gaps') :
    CollapsedGaps last true gaps (gaps'.modifyHead Text.trimStart) := by
  cases h with
  | single h => exact .single h.trimStart
  | cons hgap h => exact .cons hgap.trimStart h

theorem trimLast (h : CollapsedGaps last behind gaps gaps') :
    CollapsedGaps true behind gaps (trimLast gaps') := by
  induction h with
  | single h => exact .single h.trimEnd
  | cons hgap h ih =>
      rw [trimLast_cons]
      · exact .cons hgap ih
      · rintro rfl
        cases h

end CollapsedGaps

/-! ## The text of a heading -/

theorem getLast?_source {span : CodeSpan} (hrun : span.run ≠ 0) :
    span.source.getLast? = some backtick := by
  rw [source, List.getLast?_append, delimiter, List.getLast?_replicate, if_neg hrun, Option.some_or]

theorem head?_source {span : CodeSpan} (hrun : span.run ≠ 0) (s : Text) :
    (span.source ++ s).head? = some backtick := by
  obtain ⟨n, hn⟩ := Nat.exists_eq_succ_of_ne_zero hrun
  rw [source, hn]
  rfl

theorem trimEnd_weave {gaps : List Text} {spans : List CodeSpan}
    (hlength : gaps.length = spans.length + 1) (hrun : ∀ span ∈ spans, span.run ≠ 0) :
    Text.trimEnd (weave gaps spans) = weave (trimLast gaps) spans := by
  induction spans generalizing gaps with
  | nil =>
      obtain ⟨gap, rfl⟩ := List.length_eq_one_iff.mp hlength
      rw [weave_nil, trimLast, weave_nil]
  | cons span spans ih =>
      rw [List.forall_mem_cons] at hrun
      obtain ⟨gap, gaps, rfl⟩ := List.exists_cons_of_length_eq_add_one hlength
      have hgaps : gaps.length = spans.length + 1 := by simpa using hlength
      have hlast : (gap ++ span.source).getLast? = some backtick := by
        rw [List.getLast?_append, getLast?_source hrun.1, Option.some_or]
      rw [trimLast_cons gap (List.ne_nil_of_length_eq_add_one hgaps), weave_cons, weave_cons,
        ← ih hgaps hrun.2, ← List.append_assoc, ← List.append_assoc]
      exact Text.dropEndWhile_append hlast rfl _

theorem trimStart_weave {gaps : List Text} {spans : List CodeSpan}
    (hlength : gaps.length = spans.length + 1) (hrun : ∀ span ∈ spans, span.run ≠ 0) :
    Text.trimStart (weave gaps spans) = weave (gaps.modifyHead Text.trimStart) spans := by
  obtain ⟨gap, gaps, rfl⟩ := List.exists_cons_of_length_eq_add_one hlength
  cases spans with
  | nil =>
      obtain rfl : gaps = [] := by simpa using hlength
      rw [weave_nil, List.modifyHead_cons, weave_nil]
  | cons span spans =>
      rw [List.modifyHead_cons, weave_cons, weave_cons]
      refine Text.trimStart_append gap fun c hc => ?_
      rw [head?_source (hrun span List.mem_cons_self)] at hc
      cases hc
      rfl

theorem trim_weave {gaps : List Text} {spans : List CodeSpan}
    (hlength : gaps.length = spans.length + 1) (hrun : ∀ span ∈ spans, span.run ≠ 0) :
    Text.trim (weave gaps spans) = weave (trimEnds gaps) spans := by
  rw [Text.trim, trimStart_weave hlength hrun, trimEnd_weave _ hrun, trimEnds]
  rw [List.length_modifyHead, hlength]

theorem Cuts.mapText_eq {s : Text} {ps : List (Piece CodeSpan)} (h : Cuts s ps) :
    Piece.mapText (Text.spaceRuns false) (fun span => Text.unfoldLines span.source) ps =
      weave ((Piece.gaps ps).map Text.squeeze) ((Piece.finds ps).map unfold) := by
  induction h with
  | nil => rfl
  | @found span after ps _ _ ih =>
      rw [Piece.mapText, ih, ← source_unfold]
      rfl
  | @plain x r ps _ _ hnext _ ih =>
      obtain ⟨rest, hrest⟩ : ∃ rest, Piece.gaps ps = [] :: rest := by
        cases ps with
        | nil => exact ⟨[], rfl⟩
        | cons p ps =>
            cases p with
            | plain y => exact absurd rfl (hnext y ps)
            | found span => exact ⟨Piece.gaps ps, rfl⟩
      rw [Piece.mapText, ih, (Text.spaceRuns_eq_squeeze x).1, Piece.gaps, hrest,
        List.modifyHead_cons, List.append_nil, List.map_cons, List.map_cons, Piece.finds,
        ← List.append_nil (Text.squeeze x), weave_append, List.append_nil]
      rfl

theorem woven_gaps (s : Text) : Woven (gaps s) (findAll s) := (cuts_pieces s).woven

theorem gaps_ne_nil (s : Text) : gaps s ≠ [] :=
  List.ne_nil_of_length_eq_add_one (woven_gaps s).length_eq

theorem headingText_eq (s : Text) : Text.headingText s =
    weave (trimEnds ((gaps s).map Text.squeeze)) ((findAll s).map unfold) := by
  have hgaps : CollapsedGaps false false (gaps s) ((gaps s).map Text.squeeze) :=
    .squeeze (gaps_ne_nil s)
  have hwoven := ((woven_gaps s).collapsed hgaps).1
  rw [Text.headingText, (cuts_pieces s).mapText_eq]
  exact trim_weave hwoven.length_eq hwoven.run_ne_zero

theorem cut_headingText (s : Text) :
    findAll (Text.headingText s) = (findAll s).map unfold ∧
      gaps (Text.headingText s) = trimEnds ((gaps s).map Text.squeeze) := by
  have hgaps : CollapsedGaps false false (gaps s) ((gaps s).map Text.squeeze) :=
    .squeeze (gaps_ne_nil s)
  rw [headingText_eq]
  exact ((woven_gaps s).collapsed hgaps.trimStart.trimLast).1.cut

/-- The text of a heading has the code spans of the text it is made of, with spaces in the place
of line feeds.  What stands before, between and behind them is what stood there, with each run of
blanks made one space and none at the two ends. -/
theorem headingText_keeps_spans (s : Text) :
    (∀ t, (gaps t).length = (findAll t).length + 1 ∧ weave (gaps t) (findAll t) = t ∧
        ranges t = Piece.spans source 0 (Piece.interleave (gaps t) (findAll t))) ∧
      (findAll (Text.headingText s)).map source =
        (findAll s).map (fun span => Text.unfoldLines span.source) ∧
      gaps (Text.headingText s) = trimEnds ((gaps s).map Text.squeeze) := by
  obtain ⟨hspans, hgaps⟩ := cut_headingText s
  refine ⟨fun t => ⟨Piece.length_gaps _, weave_gaps t, ?_⟩, ?_, hgaps⟩
  · exact (Piece.spans_interleave 0 (pieces t)).symm
  · rw [hspans, List.map_map]
    exact List.map_congr_left fun span _ => source_unfold span

example : Text.headingText "  a \\\n `x  \ny`  b \\  ".toList = "a \\ `x   y` b \\".toList := by
  decide +kernel

end CodeSpan

end Tidymark
