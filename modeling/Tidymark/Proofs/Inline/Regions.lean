import Tidymark.Proofs.Inline.Spans

/-!
# Code is protected

The lines of a text are divided into prose and fenced regions in one way.
Cleaning up the prose makes no line a code fence and leaves the line feed in
front of each fence, so the regions of the output are those of the text: the
fenced ones as they were, and between them prose with the same code spans, but
for blanks inside their ends.
-/

namespace Tidymark

open Text (Tightened Ended endedLines)

/-! ## Code fences -/

namespace FenceRun

theorem ofLine?_eq_none_iff {line : Text} :
    ofLine? line = none ↔ ∀ k c r, k ≤ 3 → c = backtick ∨ c = '~' →
      line ≠ List.replicate k ' ' ++ c :: c :: c :: r := by
  constructor
  · rintro h k c r hk hc rfl
    have hspace : (c :: c :: c :: r).head? ≠ some ' ' := by
      rcases hc with rfl | rfl <;> simp [backtick]
    have hlength : Text.runLength ' ' (List.replicate k ' ' ++ c :: c :: c :: r) = k := by
      rw [Text.runLength_replicate_append, Text.runLength_eq_zero hspace, Nat.add_zero]
    have hrun : 3 ≤ Text.runLength c (c :: c :: c :: r) := by simp [Text.runLength]
    have hdrop : (List.replicate k ' ' ++ c :: c :: c :: r).drop k = c :: c :: c :: r :=
      List.drop_left' List.length_replicate
    rw [ofLine?] at h
    simp [hlength, hdrop, hk, hc, hrun] at h
  · intro h
    rw [ofLine?]
    simp only
    split
    · rfl
    · next c r hbody =>
        split
        · next hfence =>
            simp only [Bool.and_eq_true, Bool.or_eq_true, beq_iff_eq, decide_eq_true_eq] at hfence
            obtain ⟨⟨hk, hc⟩, hrun⟩ := hfence
            have hline := Text.replicate_runLength_append_drop ' ' line
            rw [hbody] at hrun
            obtain ⟨tail, htail⟩ := Text.exists_of_le_runLength hrun
            rw [hbody, htail] at hline
            exact absurd hline.symm (h _ c tail hk hc)
        · rfl

end FenceRun

namespace Text

variable {reach : Reach} {p : Char} {s t : Text}

theorem Tightened.exists_of_spaces {k : Nat} (h : Tightened reach p s (List.replicate k ' ' ++ t))
    (hp : isBlank p = true) :
    ∃ q s', s = List.replicate k ' ' ++ s' ∧ isBlank q = true ∧ Tightened reach q s' t := by
  induction k generalizing p s with
  | zero => exact ⟨p, s, rfl, hp, h⟩
  | succ k ih =>
      have hseam : ¬Seam reach p ' ' := by
        intro hseam
        cases hseam.right_not_blank
      obtain ⟨x, s, rfl, hx, hrest⟩ := h.exists_of_no_seam hseam
      cases hx
      obtain ⟨q, s', rfl, hq, htight⟩ := ih hrest rfl
      exact ⟨q, s', rfl, hq, htight⟩

/-- Three fence characters that are kept stood together. -/
theorem Tightened.exists_of_fence {c : Char} (hc : c = backtick ∨ c = '~')
    (h : Tightened reach p s (c :: c :: c :: t)) (hp : isBlank p = true) :
    ∃ s', s = c :: c :: c :: s' := by
  have hstart : ¬Seam reach p c := by
    intro hseam
    rw [hseam.left_not_blank] at hp
    cases hp
  have hinside : ¬Seam reach c c := fun hseam => hseam.ne_of_fence hc rfl
  have hkept : ∀ x, Starred reach x c → x = c := fun x hx =>
    hx.eq_of_ne_star (by rcases hc with rfl | rfl <;> decide)
  obtain ⟨x, s₁, rfl, hx, h⟩ := h.exists_of_no_seam hstart
  obtain ⟨y, s₂, rfl, hy, h⟩ := h.exists_of_no_seam hinside
  obtain ⟨z, s₃, rfl, hz, -⟩ := h.exists_of_no_seam hinside
  exact ⟨s₃, by rw [hkept x hx, hkept y hy, hkept z hz]⟩

/-- Tightening a text makes no line of it a code fence. -/
theorem Tightened.ofLine?_eq_none (h : Tightened reach p s t) (hp : isBlank p = true)
    (hs : ∀ l ∈ endedLines s, FenceRun.ofLine? l = none) :
    ∀ l ∈ endedLines t, FenceRun.ofLine? l = none := by
  intro l hl
  rw [FenceRun.ofLine?_eq_none_iff]
  rintro k c r hk hc rfl
  obtain ⟨a, b, rfl, ha⟩ := exists_of_mem_endedLines hl
  obtain ⟨s₁, s₂, rfl, hfront, hback⟩ := h.exists_of_append
  have hblank : isBlank (a.getLastD p) = true := by
    rw [List.getLastD_eq_getLast?]
    cases hlast : a.getLast? with
    | none => exact hp
    | some d =>
        rw [ha d hlast]
        rfl
  rw [List.append_assoc] at hback
  obtain ⟨q, s₃, rfl, hq, hback⟩ := hback.exists_of_spaces hblank
  obtain ⟨rest, rfl⟩ := hback.exists_of_fence hc hq
  have hbreak : '\n' ∉ List.replicate k ' ' ++ [c, c, c] := by
    rcases hc with rfl | rfl <;> simp [backtick]
  obtain ⟨tail, htail⟩ := (hfront.ended_iff.mpr ha).exists_mem_endedLines hbreak
    (List.append_ne_nil_of_right_ne_nil _ (List.cons_ne_nil _ _)) rest
  rw [List.append_assoc, List.append_assoc] at htail
  exact FenceRun.ofLine?_eq_none_iff.mp (hs _ htail) k c tail hk hc rfl

end Text

/-! ## One way to divide the lines -/

namespace Region

/-- Lines divided into prose and fenced regions.  A region runs from a line with a fence, outside
of any other, to the next line that closes it, or to the end. -/
inductive Divides : List Text → List Region → Prop where
  | prose {ls : List Text} (hls : ∀ l ∈ ls, FenceRun.ofLine? l = none) :
      Divides ls [.prose ls.flatten]
  | unclosed {front inner : List Text} {opener : Text} {fence : FenceRun}
      (hfront : ∀ l ∈ front, FenceRun.ofLine? l = none)
      (hopener : FenceRun.ofLine? opener = some fence)
      (hinner : ∀ l ∈ inner, fence.closedBy l = false) :
      Divides (front ++ opener :: inner)
        [.prose front.flatten, .fenced (opener :: inner).flatten]
  | closed {front inner rest : List Text} {opener closer : Text} {fence : FenceRun}
      {rs : List Region} (hfront : ∀ l ∈ front, FenceRun.ofLine? l = none)
      (hopener : FenceRun.ofLine? opener = some fence)
      (hinner : ∀ l ∈ inner, fence.closedBy l = false) (hcloser : fence.closedBy closer = true)
      (h : Divides rest rs) :
      Divides (front ++ (opener :: inner ++ [closer]) ++ rest)
        (.prose front.flatten :: .fenced (opener :: inner ++ [closer]).flatten :: rs)

theorem ofLinesFrom_prose {front : List Text} (hfront : ∀ l ∈ front, FenceRun.ofLine? l = none)
    (held : Text) (ls : List Text) :
    ofLinesFrom none held (front ++ ls) = ofLinesFrom none (held ++ front.flatten) ls := by
  induction front generalizing held with
  | nil => rw [List.flatten_nil, List.append_nil, List.nil_append]
  | cons l front ih =>
      rw [List.forall_mem_cons] at hfront
      rw [List.cons_append, ofLinesFrom]
      simp only [hfront.1]
      rw [ih hfront.2, List.flatten_cons, List.append_assoc]

theorem ofLinesFrom_fenced {fence : FenceRun} {inner : List Text}
    (hinner : ∀ l ∈ inner, fence.closedBy l = false) (held : Text) (ls : List Text) :
    ofLinesFrom (some fence) held (inner ++ ls) =
      ofLinesFrom (some fence) (held ++ inner.flatten) ls := by
  induction inner generalizing held with
  | nil => rw [List.flatten_nil, List.append_nil, List.nil_append]
  | cons l inner ih =>
      rw [List.forall_mem_cons] at hinner
      rw [List.cons_append, ofLinesFrom]
      simp only [hinner.1, Bool.false_eq_true, if_false]
      rw [ih hinner.2, List.flatten_cons, List.append_assoc]

theorem ofLinesFrom_cons_fence {opener : Text} {fence : FenceRun}
    (hopener : FenceRun.ofLine? opener = some fence) (held : Text) (ls : List Text) :
    ofLinesFrom none held (opener :: ls) =
      .prose held :: ofLinesFrom (some fence) opener ls := by
  rw [ofLinesFrom]
  simp only [hopener]

theorem ofLinesFrom_cons_closer {closer : Text} {fence : FenceRun}
    (hcloser : fence.closedBy closer = true) (held : Text) (ls : List Text) :
    ofLinesFrom (some fence) held (closer :: ls) =
      .fenced (held ++ closer) :: ofLinesFrom none [] ls := by
  rw [ofLinesFrom]
  simp only [hcloser, if_true]

/-- Lines are divided in no other way. -/
theorem Divides.ofLinesFrom_eq {ls : List Text} {rs : List Region} (h : Divides ls rs) :
    ofLinesFrom none [] ls = rs := by
  induction h with
  | @prose ls hls =>
      have hread := ofLinesFrom_prose hls [] []
      rwa [List.append_nil] at hread
  | @unclosed front inner opener fence hfront hopener hinner =>
      have hread := ofLinesFrom_fenced hinner opener []
      rw [List.append_nil] at hread
      rw [ofLinesFrom_prose hfront, ofLinesFrom_cons_fence hopener, hread]
      rfl
  | @closed front inner rest opener closer fence rs hfront hopener hinner hcloser _ ih =>
      rw [List.append_assoc, ofLinesFrom_prose hfront, List.append_assoc, List.cons_append,
        ofLinesFrom_cons_fence hopener, ofLinesFrom_fenced hinner, List.singleton_append,
        ofLinesFrom_cons_closer hcloser, ih]
      simp

theorem exists_first (q : Text → Bool) (ls : List Text) :
    (∀ l ∈ ls, q l = false) ∨
      ∃ before l after, ls = before ++ l :: after ∧ (∀ k ∈ before, q k = false) ∧ q l = true := by
  induction ls with
  | nil => exact .inl (by simp)
  | cons k ls ih =>
      cases hk : q k with
      | true => exact .inr ⟨[], k, ls, rfl, by simp, hk⟩
      | false =>
          rcases ih with hnone | ⟨before, l, after, rfl, hbefore, hl⟩
          · exact .inl (List.forall_mem_cons.mpr ⟨hk, hnone⟩)
          · exact .inr ⟨k :: before, l, after, rfl, List.forall_mem_cons.mpr ⟨hk, hbefore⟩, hl⟩

theorem exists_divides (ls : List Text) : ∃ rs, Divides ls rs := by
  induction hn : ls.length using Nat.strongRecOn generalizing ls with
  | ind n ih =>
    have hnone : ∀ l, (FenceRun.ofLine? l).isSome = false → FenceRun.ofLine? l = none :=
      fun l hl => Option.isNone_iff_eq_none.mp (Option.isSome_eq_false_iff.mp hl)
    rcases exists_first (fun l => (FenceRun.ofLine? l).isSome) ls with hls | hls
    · exact ⟨_, .prose fun l hl => hnone l (hls l hl)⟩
    · obtain ⟨front, opener, after, rfl, hfront, hopener⟩ := hls
      obtain ⟨fence, hfence⟩ := Option.isSome_iff_exists.mp hopener
      have hprose : ∀ l ∈ front, FenceRun.ofLine? l = none := fun l hl => hnone l (hfront l hl)
      rcases exists_first fence.closedBy after with hopen | hclosed
      · exact ⟨_, .unclosed hprose hfence hopen⟩
      · obtain ⟨inner, closer, rest, rfl, hinner, hcloser⟩ := hclosed
        obtain ⟨rs, hrest⟩ := ih rest.length (by simp [← hn]; omega) rest rfl
        have hdivides := Divides.closed hprose hfence hinner hcloser hrest
        exact ⟨_, by simpa using hdivides⟩

/-- The regions of a text divide its lines. -/
theorem divides_ofText (s : Text) : Divides (endedLines s) (ofText s) := by
  obtain ⟨rs, h⟩ := exists_divides (endedLines s)
  rwa [ofText, h.ofLinesFrom_eq]

theorem ofText_eq_of_divides {s : Text} {rs : List Region} (h : Divides (endedLines s) rs) :
    ofText s = rs :=
  h.ofLinesFrom_eq

end Region

/-! ## Regions of cleaned text -/

namespace Cleanup

/-- A region with its prose cleaned up. -/
def cleaned : Region → Region
  | .prose s => .prose (prose s)
  | .fenced s => .fenced s

theorem text_cleaned (r : Region) : (cleaned r).text = region r := by
  cases r with
  | prose s => rfl
  | fenced s => rfl

def written (rs : List Region) : Text := (rs.map cleaned).flatMap Region.text

theorem cleanup_eq (s : Text) : cleanup s = written (Region.ofText s) := by
  rw [cleanup, written, List.flatMap_map]
  exact congrArg (List.flatMap · _) (funext fun r => (text_cleaned r).symm)

theorem prose_nil : prose [] = [] := (tightened_prose [] ' ').eq_nil_right

theorem ofLine?_eq_none_prose {front : List Text}
    (hfront : ∀ l ∈ front, FenceRun.ofLine? l = none) (hlines : endedLines front.flatten = front) :
    ∀ l ∈ endedLines (prose front.flatten), FenceRun.ofLine? l = none := by
  refine (tightened_prose front.flatten ' ').ofLine?_eq_none rfl ?_
  rwa [hlines]

/-- Cleaned regions divide the lines of what they hold. -/
theorem divides_written {ls : List Text} {rs : List Region} (h : Region.Divides ls rs) {s : Text}
    (hs : endedLines s = ls) :
    Region.Divides (endedLines (written rs)) (rs.map cleaned) ∧ (ls = [] → written rs = []) := by
  induction h generalizing s with
  | @prose ls hls =>
      have hlines : endedLines ls.flatten = ls := by rw [← hs, Text.flatten_endedLines]
      have hwritten : written [.prose ls.flatten] = prose ls.flatten := by
        simp [written, cleaned, Region.text]
      have hdivides := Region.Divides.prose (ofLine?_eq_none_prose hls hlines)
      rw [Text.flatten_endedLines] at hdivides
      refine ⟨hwritten ▸ hdivides, ?_⟩
      rintro rfl
      rw [hwritten, List.flatten_nil, prose_nil]
  | @unclosed front inner opener fence hfront hopener hinner =>
      have hprose : Ended (prose front.flatten) :=
        (tightened_prose front.flatten ' ').ended_iff.mp (Text.ended_flatten_left hs)
      have hwritten : written [.prose front.flatten, .fenced (opener :: inner).flatten] =
          prose front.flatten ++ (opener :: inner).flatten := by
        simp [written, cleaned, Region.text]
      have hdivides := Region.Divides.unclosed
        (ofLine?_eq_none_prose hfront (Text.endedLines_flatten_left hs)) hopener hinner
      rw [Text.flatten_endedLines] at hdivides
      refine ⟨?_, fun hnil => by simp at hnil⟩
      rw [hwritten, hprose.endedLines_append, Text.endedLines_flatten hs]
      exact hdivides
  | @closed front inner rest opener closer fence rs hfront hopener hinner hcloser _ ih =>
      have hrest := Text.endedLines_flatten hs
      rw [List.append_assoc] at hs
      have hblock := Text.endedLines_flatten hs
      have hprose : Ended (prose front.flatten) :=
        (tightened_prose front.flatten ' ').ended_iff.mp (Text.ended_flatten_left hs)
      obtain ⟨hdivides, hnil⟩ := ih hrest
      have hwritten : written (.prose front.flatten ::
          .fenced (opener :: inner ++ [closer]).flatten :: rs) =
          prose front.flatten ++ ((opener :: inner ++ [closer]).flatten ++ written rs) := by
        simp [written, cleaned, Region.text]
      have hclosed := Region.Divides.closed
        (ofLine?_eq_none_prose hfront (Text.endedLines_flatten_left hs)) hopener hinner hcloser
        hdivides
      rw [Text.flatten_endedLines] at hclosed
      refine ⟨?_, fun hempty => by simp at hempty⟩
      rw [hwritten, hprose.endedLines_append, Text.endedLines_flatten_append hblock hnil,
        ← List.append_assoc]
      exact hclosed

/-- The regions of cleaned text are those of the text cleaned up. -/
theorem ofText_cleanup (s : Text) :
    Region.ofText (cleanup s) = (Region.ofText s).map cleaned := by
  rw [cleanup_eq]
  exact Region.ofText_eq_of_divides (divides_written (Region.divides_ofText s) rfl).1

theorem cleanup_eq_plain {s : Text} (hticks : backtick ∉ s)
    (hfences : ∀ l ∈ endedLines s, FenceRun.ofLine? l = none) : cleanup s = plain s := by
  have hregion := Region.ofText_eq_of_divides (.prose hfences)
  rw [Text.flatten_endedLines] at hregion
  rw [cleanup, hregion, List.flatMap_singleton, region, prose_eq_plain hticks]

end Cleanup

/-! ## What is kept of code -/

/-- What cleanup makes of a region: fenced code stays as it is, and prose keeps its code spans,
each as it was or trimmed. -/
inductive Region.Protects : Region → Region → Prop where
  | fenced (s : Text) : Protects (.fenced s) (.fenced s)
  | prose {s t : Text}
      (hkept : List.Forall₂ CodeSpan.Kept (CodeSpan.findAll s) (CodeSpan.findAll t))
      (hread : List.Forall₂ (fun range span => range.Cuts s span.source)
        (CodeSpan.ranges s) (CodeSpan.findAll s))
      (hwritten : List.Forall₂ (fun range span => range.Cuts t span.source)
        (CodeSpan.ranges t) (CodeSpan.findAll t)) : Protects (.prose s) (.prose t)

theorem Cleanup.protects_cleaned (r : Region) : r.Protects (cleaned r) := by
  cases r with
  | prose s =>
      exact .prose (kept_findAll_prose s) (CodeSpan.cuts_ranges s) (CodeSpan.cuts_ranges _)
  | fenced s => exact .fenced s

/-- Cleanup protects code: divided into regions, the text that comes out has the fenced regions
that went in, each in its place, and prose with the code spans that it had. -/
theorem exists_regions_protected (s : Text) :
    ∃ rs rs', Region.Divides (endedLines s) rs ∧ Region.Divides (endedLines (cleanup s)) rs' ∧
      cleanup s = rs'.flatMap Region.text ∧ List.Forall₂ Region.Protects rs rs' := by
  have hdivides := Region.divides_ofText s
  have hwritten := (Cleanup.divides_written hdivides rfl).1
  rw [← Cleanup.cleanup_eq] at hwritten
  refine ⟨_, _, hdivides, hwritten, Cleanup.cleanup_eq s, ?_⟩
  rw [List.forall₂_map_right_iff, List.forall₂_same]
  exact fun r _ => Cleanup.protects_cleaned r

end Tidymark
