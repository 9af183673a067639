import Mathlib.Data.List.Flatten
import Mathlib.Data.List.Forall2
import Tidymark.Proofs.Reflow.Content

/-!
# Greedy parts

A list is cut greedily if no part has room for the first element of the next.
What is allowed as a part then determines the cut, and no other cut into
allowed parts has fewer.  Clusters are cut greedily from tokens, and lines from
clusters, so reflow makes the fewest lines there can be.
-/

namespace Tidymark

/-- Parts that `P` allows, none with room for the first element of the next. -/
inductive Greedy {α : Type} (P : List α → Prop) : List (List α) → Prop where
  | nil : Greedy P []
  | cons {part : List α} {parts : List (List α)} (hne : part ≠ []) (hP : P part)
      (hfull : ∀ a, parts.flatten.head? = some a → ¬P (part ++ [a])) (h : Greedy P parts) :
      Greedy P (part :: parts)

namespace Greedy

variable {α : Type} {P : List α → Prop}

theorem ne_nil {parts : List (List α)} (h : Greedy P parts) : ∀ part ∈ parts, part ≠ [] := by
  induction h with
  | nil => simp
  | cons hne _ _ _ ih => exact List.forall_mem_cons.mpr ⟨hne, ih⟩

theorem allowed {parts : List (List α)} (h : Greedy P parts) : ∀ part ∈ parts, P part := by
  induction h with
  | nil => simp
  | cons _ hP _ _ ih => exact List.forall_mem_cons.mpr ⟨hP, ih⟩

theorem eq_nil {parts : List (List α)} (h : Greedy P parts) (hflatten : parts.flatten = []) :
    parts = [] := by
  cases h with
  | nil => rfl
  | cons hne _ _ _ =>
      rw [List.flatten_cons, List.append_eq_nil_iff] at hflatten
      exact absurd hflatten.1 hne

theorem of_append {front parts : List (List α)} (h : Greedy P (front ++ parts)) :
    Greedy P parts := by
  induction front with
  | nil => exact h
  | cons part front ih =>
      cases h with
      | cons _ _ _ h => exact ih h

/-- Parts that correspond to a greedy cut are cut greedily, if being allowed is reflected, and kept
where `Q` holds. -/
theorem of_forall₂ {R : α → α → Prop} {Q : List α → Prop} {parts parts' : List (List α)}
    (h : Greedy P parts) (hparts : List.Forall₂ (List.Forall₂ R) parts parts')
    (hQ : ∀ part ∈ parts', Q part)
    (hkept : ∀ {part part'}, List.Forall₂ R part part' → P part → Q part' → P part')
    (hback : ∀ {part part'}, List.Forall₂ R part part' → P part' → P part) : Greedy P parts' := by
  induction hparts with
  | nil => exact .nil
  | @cons part part' parts parts' hpart hparts ih =>
      cases h with
      | cons hne hP hfull h =>
          rw [List.forall_mem_cons] at hQ
          refine .cons ?_ (hkept hpart hP hQ.1) ?_ (ih h hQ.2)
          · rintro rfl
            cases hpart
            exact hne rfl
          · intro a' ha' hP'
            obtain ⟨rest', hrest'⟩ := List.head?_eq_some_iff.mp ha'
            have hflatten : List.Forall₂ R parts.flatten parts'.flatten := List.rel_flatten hparts
            rw [hrest'] at hflatten
            obtain ⟨a, rest, ha, _, hrest⟩ := List.forall₂_cons_right_iff.mp hflatten
            have hlonger : List.Forall₂ R (part ++ [a]) (part' ++ [a']) :=
              List.rel_append hpart (.cons ha .nil)
            exact hfull a (by rw [hrest]; rfl) (hback hlonger hP')

section Sublists

variable (hP : ∀ {l l' : List α}, l.Sublist l' → P l' → P l)

include hP

/-- An allowed part that starts with a full one goes no further. -/
theorem eq_nil_of_append {part more rest : List α} {parts : List (List α)}
    (hfull : ∀ a, parts.flatten.head? = some a → ¬P (part ++ [a]))
    (hflatten : parts.flatten = more ++ rest) {l : List α} (hl : (part ++ more).Sublist l)
    (hPl : P l) : more = [] := by
  cases more with
  | nil => rfl
  | cons a more =>
      have hfirst : [a].Sublist (a :: more) := List.cons_sublist_cons.mpr (List.nil_sublist more)
      have hsub : (part ++ [a]).Sublist l := ((List.Sublist.refl part).append hfirst).trans hl
      exact absurd (hP hsub hPl) (hfull a (by rw [hflatten]; rfl))

/-- There is one greedy cut. -/
theorem eq_of_flatten_eq {parts parts' : List (List α)} (h : Greedy P parts)
    (h' : Greedy P parts') (hflatten : parts.flatten = parts'.flatten) : parts = parts' := by
  induction h generalizing parts' with
  | nil => exact (h'.eq_nil hflatten.symm).symm
  | @cons part parts hne hPpart hfull h ih =>
      cases h' with
      | nil => exact absurd (List.append_eq_nil_iff.mp hflatten).1 hne
      | @cons part' parts' hne' hPpart' hfull' h' =>
          rw [List.flatten_cons, List.flatten_cons] at hflatten
          rcases List.append_eq_append_iff.mp hflatten with ⟨more, rfl, hmore⟩ | ⟨more, rfl, hmore⟩
          · cases eq_nil_of_append hP hfull hmore (.refl _) hPpart'
            rw [List.append_nil, ih h' hmore]
          · cases eq_nil_of_append hP hfull' hmore (.refl _) hPpart
            rw [List.append_nil, ih h' hmore.symm]

/-- No cut into allowed parts, even of more elements in front, has fewer parts than a greedy one. -/
theorem length_le {parts others : List (List α)} (h : Greedy P parts)
    (hothers : ∀ part ∈ others, P part) (hsuffix : parts.flatten <:+ others.flatten) :
    parts.length ≤ others.length := by
  induction others generalizing parts with
  | nil =>
      rw [h.eq_nil (List.suffix_nil.mp hsuffix)]
  | cons other others ih =>
      rw [List.forall_mem_cons] at hothers
      cases h with
      | nil => exact Nat.zero_le _
      | @cons part parts hne hPpart hfull h =>
          rw [List.flatten_cons, List.flatten_cons] at hsuffix
          have hrest : parts.flatten <:+ others.flatten := by
            have hparts := (List.suffix_append part parts.flatten).trans hsuffix
            rcases List.suffix_or_suffix_of_suffix hparts (List.suffix_append other _) with
              hrest | ⟨more, hmore⟩
            · exact hrest
            · obtain ⟨front, hfront⟩ := hsuffix
              have hother : front ++ (part ++ more) = other := by
                rw [← hmore, ← List.append_assoc part, ← List.append_assoc front] at hfront
                exact List.append_cancel_right hfront
              have hsub : (part ++ more).Sublist other := by
                rw [← hother]
                exact List.sublist_append_right front _
              cases eq_nil_of_append hP hfull hmore.symm hsub hothers.1
              exact hmore ▸ List.suffix_refl _
          exact Nat.succ_le_succ (ih h hothers.2 hrest)

end Sublists

end Greedy

theorem flatten_ne_nil {α : Type} {parts : List (List α)} (hparts : parts ≠ [])
    (hne : ∀ part ∈ parts, part ≠ []) : parts.flatten ≠ [] := by
  obtain ⟨part, hpart⟩ := List.exists_mem_of_ne_nil parts hparts
  exact List.flatten_ne_nil_iff.mpr ⟨part, hpart, hne part hpart⟩

theorem dropLast_sublist_dropLast {α : Type} {l l' : List α} (h : l.Sublist l') :
    l.dropLast.Sublist l'.dropLast := by
  have hreverse := h.reverse.tail.reverse
  rwa [List.tail_reverse, List.tail_reverse, List.reverse_reverse, List.reverse_reverse] at hreverse

/-! ## Clusters -/

namespace Cluster

theorem endsHard_append_singleton (cluster : Cluster) (token : Token) :
    endsHard (cluster ++ [token]) = token.hardBreak := by
  rw [endsHard, List.getLast?_concat]

/-- Every token behind the first opens a block, and only the last may break the line. -/
structure Joined (cluster : Cluster) : Prop where
  opens : ∀ token ∈ cluster.tail, Token.opensBlock token.text = true
  unbroken : ∀ token ∈ cluster.dropLast, token.hardBreak = false

theorem Joined.of_sublist {cluster cluster' : Cluster} (hsub : cluster.Sublist cluster')
    (h : Joined cluster') : Joined cluster where
  opens token htoken := h.opens token (hsub.tail.subset htoken)
  unbroken token htoken := h.unbroken token ((dropLast_sublist_dropLast hsub).subset htoken)

theorem joined_singleton (token : Token) : Joined [token] where
  opens := by simp
  unbroken := by simp

/-- A token joins a cluster exactly if it opens a block and no hard break stands in front. -/
theorem joined_append_singleton_iff {cluster : Cluster} (hne : cluster ≠ []) (h : Joined cluster)
    (token : Token) :
    Joined (cluster ++ [token]) ↔
      Token.opensBlock token.text = true ∧ cluster.endsHard = false := by
  obtain ⟨front, last, rfl⟩ := (List.eq_nil_or_concat' cluster).resolve_left hne
  have htail : (front ++ [last] ++ [token]).tail = (front ++ [last]).tail ++ [token] :=
    List.tail_append_of_ne_nil (by simp)
  rw [endsHard_append_singleton]
  constructor
  · intro hjoined
    refine ⟨hjoined.opens token ?_, hjoined.unbroken last ?_⟩
    · rw [htail]
      exact List.mem_concat_self
    · rw [List.dropLast_concat]
      exact List.mem_concat_self
  · rintro ⟨hopens, hsoft⟩
    have hunbroken := h.unbroken
    rw [List.dropLast_concat] at hunbroken
    constructor
    · rw [htail, List.forall_mem_append, List.forall_mem_singleton]
      exact ⟨h.opens, hopens⟩
    · rw [List.dropLast_concat, List.forall_mem_append, List.forall_mem_singleton]
      exact ⟨hunbroken, hsoft⟩

theorem greedy_groupFrom {current : Cluster} (hne : current ≠ []) (hcurrent : Joined current)
    (tokens : List Token) : Greedy Joined (groupFrom current tokens) := by
  fun_induction groupFrom current tokens with
  | case1 current => exact .cons hne hcurrent (by simp) .nil
  | case2 current token rest hjoins ih =>
      apply ih (by simp)
      rw [joined_append_singleton_iff hne hcurrent]
      simpa using hjoins
  | case3 current token rest hjoins ih =>
      refine .cons hne hcurrent ?_ (ih (List.cons_ne_nil _ _) (joined_singleton token))
      rw [flatten_groupFrom]
      intro a ha hjoined
      cases ha
      rw [joined_append_singleton_iff hne hcurrent] at hjoined
      simp [hjoined] at hjoins

/-- Clusters are cut greedily from tokens. -/
theorem greedy_group (tokens : List Token) : Greedy Joined (group tokens) := by
  cases tokens with
  | nil => exact .nil
  | cons token rest =>
      exact greedy_groupFrom (List.cons_ne_nil _ _) (joined_singleton token) rest

end Cluster

/-! ## Lines -/

namespace Line

/-- A line that ends at its first hard break, and is no wider than allowed if it holds more than
one cluster. -/
structure Allowed (width : Nat) (line : Line) : Prop where
  unbroken : ∀ cluster ∈ line.dropLast, cluster.endsHard = false
  fits : 2 ≤ line.length → line.width ≤ width

theorem width_le_of_sublist {line line' : Line} (h : line.Sublist line') :
    line.width ≤ line'.width := by
  have htexts := (h.map Cluster.text).flatten.length_le
  have hlength := (h.map Cluster.text).length_le
  rw [width, width, text, text, Text.length_joinWords, Text.length_joinWords]
  omega

theorem width_append_singleton {line : Line} (hne : line ≠ []) (cluster : Cluster) :
    Line.width (line ++ [cluster]) = line.width + 1 + cluster.width := by
  have hjoin : text (line ++ [cluster]) = line.text ++ ' ' :: cluster.text := by
    rw [text, List.map_append]
    exact Text.joinWords_append (mt List.map_eq_nil_iff.mp hne) (List.cons_ne_nil _ _)
  rw [width, hjoin, List.length_append, List.length_cons, width, Cluster.width]
  omega

theorem Allowed.of_sublist {width : Nat} {line line' : Line} (hsub : line.Sublist line')
    (h : Allowed width line') : Allowed width line where
  unbroken cluster hcluster :=
    h.unbroken cluster ((dropLast_sublist_dropLast hsub).subset hcluster)
  fits hlength := (width_le_of_sublist hsub).trans (h.fits (hlength.trans hsub.length_le))

theorem Allowed.mono {width width' : Nat} (hle : width ≤ width') {line : Line}
    (h : Allowed width line) : Allowed width' line where
  unbroken := h.unbroken
  fits hlength := (h.fits hlength).trans hle

/-- No line goes on behind a hard break. -/
theorem not_allowed_of_endsHard {cluster : Cluster} (h : cluster.endsHard = true) (width : Nat)
    (line : Line) (next : Cluster) : ¬Allowed width (line ++ [cluster] ++ [next]) := by
  intro hallowed
  have hsoft := hallowed.unbroken cluster (by rw [List.dropLast_concat]; exact List.mem_concat_self)
  rw [h] at hsoft
  cases hsoft

theorem allowed_append_singleton {width : Nat} {line : Line} {cluster : Cluster}
    (hsoft : ∀ c ∈ line, c.endsHard = false)
    (hfits : line ≠ [] → line.width + 1 + cluster.width ≤ width) :
    Allowed width (line ++ [cluster]) where
  unbroken := by rwa [List.dropLast_concat]
  fits hlength := by
    have hne : line ≠ [] := by
      rintro rfl
      simp at hlength
    rw [width_append_singleton hne]
    exact hfits hne

theorem fillFrom_nil_cons (width : Nat) (cluster : Cluster) (rest : List Cluster) :
    fillFrom width [] (cluster :: rest) =
      if cluster.endsHard then [cluster] :: fillFrom width [] rest
      else fillFrom width [cluster] rest := by
  simp [fillFrom]

theorem greedy_fillFrom {width : Nat} {current : Line} (hcurrent : Allowed width current)
    (hsoft : ∀ cluster ∈ current, cluster.endsHard = false) (clusters : List Cluster) :
    Greedy (Allowed width) (fillFrom width current clusters) := by
  have hempty : Allowed width [] := ⟨by simp, by simp⟩
  fun_induction fillFrom width current clusters with
  | case1 current h => exact .nil
  | case2 current h => exact .cons (by simpa using h) hcurrent (by simp) .nil
  | case3 current cluster rest h ih₁ ih₂ =>
      rw [Bool.and_eq_true, Bool.not_eq_true', decide_eq_true_eq] at h
      have hne : current ≠ [] := by simpa using h.1
      have hsingle : Allowed width ([] ++ [cluster]) := allowed_append_singleton (by simp) (by simp)
      rw [← fillFrom_nil_cons]
      refine .cons hne hcurrent ?_ ?_
      · -- The cluster that starts the next line has no room on this one.
        rw [flatten_fillFrom]
        intro a ha hallowed
        cases ha
        have hlength := List.length_pos_iff.mpr hne
        have hfits := hallowed.fits (by rw [List.length_append, List.length_singleton]; omega)
        rw [width_append_singleton hne] at hfits
        omega
      · rw [fillFrom_nil_cons]
        split
        · next hhard =>
            exact .cons (List.cons_ne_nil _ _) hsingle
              (fun a _ => not_allowed_of_endsHard hhard width [] a) (ih₁ hempty (by simp))
        · next hhard => exact ih₂ hsingle (by simpa using hhard)
  | case4 current cluster rest h hhard ih =>
      have hroom : current ≠ [] → current.width + 1 + cluster.width ≤ width := by
        simpa using h
      exact .cons (by simp) (allowed_append_singleton hsoft hroom)
        (fun a _ => not_allowed_of_endsHard hhard width current a) (ih hempty (by simp))
  | case5 current cluster rest h hhard ih =>
      have hroom : current ≠ [] → current.width + 1 + cluster.width ≤ width := by
        simpa using h
      apply ih (allowed_append_singleton hsoft hroom)
      rw [List.forall_mem_append, List.forall_mem_singleton]
      exact ⟨hsoft, by simpa using hhard⟩

theorem flatten_fill (width : Nat) (clusters : List Cluster) :
    (fill width clusters).flatten = clusters :=
  flatten_fillFrom width [] clusters

theorem forall_mem_fill (width : Nat) {p : Cluster → Prop} {clusters : List Cluster}
    (h : ∀ cluster ∈ clusters, p cluster) :
    ∀ line ∈ fill width clusters, ∀ cluster ∈ line, p cluster := by
  rwa [← List.forall_mem_flatten, flatten_fill]

/-- Lines are cut greedily from clusters. -/
theorem greedy_fill (width : Nat) (clusters : List Cluster) :
    Greedy (Allowed width) (fill width clusters) :=
  greedy_fillFrom ⟨by simp, by simp⟩ (by simp) clusters

end Line

theorem reflow_of_eq_nil (width : Nat) {s : Text} (hs : Token.ofText s = []) :
    reflow width s = s := by
  unfold reflow
  split
  · rfl
  · rfl
  · next h => exact absurd hs h

theorem reflow_eq {width : Nat} (hwidth : 0 < width) {s : Text} (hs : Token.ofText s ≠ []) :
    reflow width s =
      Text.joinLines ((Line.fill width (Cluster.group (Token.ofText s))).map Line.text) := by
  unfold reflow
  split
  · cases hwidth
  · next h => exact absurd h hs
  · rfl

namespace Line

/-- A way to cut clusters into lines. -/
structure Cut (width : Nat) (clusters : List Cluster) (lines : List Line) : Prop where
  flatten_eq : lines.flatten = clusters
  allowed : ∀ line ∈ lines, line.Allowed width

theorem cut_fill (width : Nat) (clusters : List Cluster) :
    Cut width clusters (fill width clusters) where
  flatten_eq := flatten_fill width clusters
  allowed := (greedy_fill width clusters).allowed

theorem Cut.length_fill_le {width : Nat} {clusters : List Cluster} {lines : List Line}
    (h : Cut width clusters lines) : (fill width clusters).length ≤ lines.length := by
  have hflatten : (fill width clusters).flatten = lines.flatten :=
    (flatten_fill width clusters).trans h.flatten_eq.symm
  exact (greedy_fill width clusters).length_le Allowed.of_sublist h.allowed
    (hflatten ▸ List.suffix_refl _)

theorem Cut.mono {width wider : Nat} (hle : width ≤ wider) {clusters : List Cluster}
    {lines : List Line} (h : Cut width clusters lines) : Cut wider clusters lines where
  flatten_eq := h.flatten_eq
  allowed line hline := (h.allowed line hline).mono hle

/-- Of all ways to cut the clusters of a text into lines, reflow takes one with the fewest lines;
so there are never more of them when the width grows. -/
theorem fewest_lines (s : Text) {width : Nat} (hwidth : 0 < width) :
    (Token.ofText s ≠ [] → reflow width s =
      Text.joinLines ((fill width (Cluster.group (Token.ofText s))).map text)) ∧
    Cut width (Cluster.group (Token.ofText s)) (fill width (Cluster.group (Token.ofText s))) ∧
    (∀ line ∈ fill width (Cluster.group (Token.ofText s)), line ≠ []) ∧
    (∀ lines, Cut width (Cluster.group (Token.ofText s)) lines →
      (fill width (Cluster.group (Token.ofText s))).length ≤ lines.length) ∧
    ∀ wider, width ≤ wider →
      (fill wider (Cluster.group (Token.ofText s))).length ≤
        (fill width (Cluster.group (Token.ofText s))).length := by
  refine ⟨reflow_eq hwidth, cut_fill width _, (greedy_fill width _).ne_nil,
    fun lines h => h.length_fill_le, fun wider hle => ?_⟩
  exact ((cut_fill width _).mono hle).length_fill_le

/-- A cluster wider than a line, a hard break, and a line that is filled. -/
theorem fewest_lines_four :
    reflow 5 "aaaa - b\\\ncc dd ee".toList = "aaaa -\nb\\\ncc dd\nee".toList ∧
    ∀ lines, Cut 5 (Cluster.group (Token.ofText "aaaa - b\\\ncc dd ee".toList)) lines →
      4 ≤ lines.length := by
  obtain ⟨hreflow, _, _, hfewest, _⟩ :=
    fewest_lines "aaaa - b\\\ncc dd ee".toList (show 0 < 5 by decide)
  have hfour :
      (fill 5 (Cluster.group (Token.ofText "aaaa - b\\\ncc dd ee".toList))).length = 4 := by
    decide +kernel
  rw [hfour] at hfewest
  refine ⟨?_, hfewest⟩
  rw [hreflow (by decide +kernel)]
  decide +kernel

end Line

end Tidymark
