import Tidymark.Proofs.Reflow.Layout
import Tidymark.Proofs.Text.Correspondence

/-!
# Reflow twice

Reflowed text is read as the tokens it was made of.  A hard break is never
lost, but a token that ends in an odd number of backslashes becomes one where
reflow ends a line behind it.  Such a line ends where it ended, so a second
reflow changes nothing.
-/

namespace Tidymark

/-! ## Lines read again -/

namespace Token

/-- The same token, with a hard break at least where there was one. -/
structure Kept (token token' : Token) : Prop where
  text_eq : token'.text = token.text
  hardBreak : token.hardBreak = true → token'.hardBreak = true

theorem Kept.hardBreak_eq_false {token token' : Token} (h : Kept token token')
    (hsoft : token'.hardBreak = false) : token.hardBreak = false := by
  rw [← Bool.not_eq_true] at hsoft ⊢
  exact mt h.hardBreak hsoft

theorem kept_rereadLine {follows : Bool} {line : List Token}
    (hunbroken : ∀ token ∈ line.dropLast, token.hardBreak = false)
    (hescaped : ∀ token ∈ line, token.hardBreak = true → endsEscaped token.text = true)
    (hend : Cluster.endsHard line = true → follows = true) :
    List.Forall₂ Kept line (rereadLine follows line) := by
  fun_induction rereadLine follows line with
  | case1 => exact .nil
  | case2 token =>
      refine .cons ⟨rfl, fun hbreak => ?_⟩ .nil
      rw [hend hbreak, hescaped token List.mem_cons_self hbreak]
      rfl
  | case3 token next rest ih =>
      rw [List.dropLast_cons_cons, List.forall_mem_cons] at hunbroken
      rw [List.forall_mem_cons] at hescaped
      refine .cons ⟨rfl, fun hbreak => ?_⟩ (ih hunbroken.2 hescaped.2 ?_)
      · rw [hunbroken.1] at hbreak
        cases hbreak
      · intro hhard
        apply hend
        rwa [← List.singleton_append, Cluster.endsHard_append (List.cons_ne_nil _ _)]

/-- Lines that end at hard breaks, the last line apart, keep their tokens. -/
theorem kept_rereadLines {lines : List (List Token)} (hne : ∀ line ∈ lines, line ≠ [])
    (hunbroken : ∀ line ∈ lines, ∀ token ∈ line.dropLast, token.hardBreak = false)
    (hescaped : ∀ token ∈ lines.flatten, token.hardBreak = true → endsEscaped token.text = true)
    (hend : Cluster.endsHard lines.flatten = false) :
    List.Forall₂ (List.Forall₂ Kept) lines (rereadLines lines) := by
  induction lines with
  | nil => exact .nil
  | cons line rest ih =>
      rw [List.forall_mem_cons] at hne hunbroken
      rw [List.flatten_cons] at hend hescaped
      rw [List.forall_mem_append] at hescaped
      cases rest with
      | nil =>
          refine .cons (kept_rereadLine hunbroken.1 hescaped.1 fun hhard => ?_) .nil
          rw [List.flatten_nil, List.append_nil, hhard] at hend
          cases hend
      | cons next rest =>
          rw [Cluster.endsHard_append (flatten_ne_nil (List.cons_ne_nil _ _) hne.2)] at hend
          exact .cons (kept_rereadLine hunbroken.1 hescaped.1 fun _ => rfl)
            (ih hne.2 hunbroken.2 hescaped.2 hend)

theorem unbroken_rereadLine (follows : Bool) (line : List Token) :
    ∀ token ∈ (rereadLine follows line).dropLast, token.hardBreak = false := by
  fun_induction rereadLine follows line with
  | case1 => simp
  | case2 token => simp
  | case3 token next rest ih =>
      have hne : rereadLine follows (next :: rest) ≠ [] := by
        cases rest <;> simp [rereadLine]
      rw [List.dropLast_cons_of_ne_nil hne, List.forall_mem_cons]
      exact ⟨rfl, ih⟩

theorem unbroken_rereadLines (lines : List (List Token)) :
    ∀ line ∈ rereadLines lines, ∀ token ∈ line.dropLast, token.hardBreak = false := by
  induction lines with
  | nil => simp [rereadLines]
  | cons line rest ih => exact List.forall_mem_cons.mpr ⟨unbroken_rereadLine _ line, ih⟩

end Token

/-! ## Clusters and lines read again -/

namespace Cluster

section Kept

variable {cluster cluster' : Cluster} (h : List.Forall₂ Token.Kept cluster cluster')

include h

theorem text_of_kept : cluster'.text = cluster.text := by
  rw [text, text, map_eq_of_forall₂ (f := (·.text)) (g := (·.text)) (fun _ _ h => h.text_eq) h]

theorem endsHard_of_kept (hsoft : cluster'.endsHard = false) : cluster.endsHard = false := by
  rcases List.eq_nil_or_concat' cluster with rfl | ⟨front, last, rfl⟩
  · rfl
  · obtain ⟨front', b, rfl, _, hlast⟩ := exists_of_forall₂_append h
    obtain ⟨last', _, hkept, hnil, rfl⟩ := List.forall₂_cons_left_iff.mp hlast
    cases hnil
    rw [endsHard_append_singleton] at hsoft ⊢
    exact hkept.hardBreak_eq_false hsoft

theorem Joined.of_kept (hjoined : Joined cluster') : Joined cluster where
  opens := forall_mem_left_of_forall₂
    (fun _ _ h hopens => by rwa [← Token.Kept.text_eq h]) (forall₂_tail h) hjoined.opens
  unbroken := forall_mem_left_of_forall₂ (fun _ _ h => Token.Kept.hardBreak_eq_false h)
    (forall₂_dropLast h) hjoined.unbroken

theorem Joined.kept (hjoined : Joined cluster)
    (hunbroken : ∀ token ∈ cluster'.dropLast, token.hardBreak = false) : Joined cluster' where
  opens := forall_mem_of_forall₂
    (fun _ _ h hopens => by rwa [Token.Kept.text_eq h]) (forall₂_tail h) hjoined.opens
  unbroken := hunbroken

end Kept

/-- Clusters read again are grouped as they were, if no hard break is made inside of one. -/
theorem group_of_kept {tokens : List Token} {clusters : List Cluster}
    (h : List.Forall₂ (List.Forall₂ Token.Kept) (group tokens) clusters)
    (hunbroken : ∀ cluster ∈ clusters, ∀ token ∈ cluster.dropLast, token.hardBreak = false) :
    group clusters.flatten = clusters := by
  have hgreedy : Greedy Joined clusters :=
    (greedy_group tokens).of_forall₂ h hunbroken Joined.kept Joined.of_kept
  exact (greedy_group clusters.flatten).eq_of_flatten_eq Joined.of_sublist hgreedy
    (flatten_group clusters.flatten)

end Cluster

namespace Line

section Kept

variable {line line' : Line} {width : Nat}
  (h : List.Forall₂ (List.Forall₂ Token.Kept) line line')

include h

theorem text_of_kept : line'.text = line.text := by
  rw [text, text, map_eq_of_forall₂ (fun _ _ h => Cluster.text_of_kept h) h]

theorem Allowed.of_kept (hallowed : Allowed width line') : Allowed width line where
  unbroken := forall_mem_left_of_forall₂ (fun _ _ h => Cluster.endsHard_of_kept h)
    (forall₂_dropLast h) hallowed.unbroken
  fits hlength := by
    have hfits := hallowed.fits (h.length_eq ▸ hlength)
    rwa [Line.width, text_of_kept h] at hfits

theorem Allowed.kept (hallowed : Allowed width line)
    (hunbroken : ∀ cluster ∈ line'.dropLast, cluster.endsHard = false) : Allowed width line' where
  unbroken := hunbroken
  fits hlength := by
    have hfits := hallowed.fits (h.length_eq ▸ hlength)
    rwa [Line.width, text_of_kept h]

end Kept

theorem fill_of_kept {width : Nat} {clusters : List Cluster} {lines : List Line}
    (h : List.Forall₂ (List.Forall₂ (List.Forall₂ Token.Kept)) (fill width clusters) lines)
    (hunbroken : ∀ line ∈ lines, ∀ cluster ∈ line.dropLast, cluster.endsHard = false) :
    fill width lines.flatten = lines := by
  have hgreedy : Greedy (Allowed width) lines :=
    (greedy_fill width clusters).of_forall₂ h hunbroken Allowed.kept Allowed.of_kept
  exact (greedy_fill width lines.flatten).eq_of_flatten_eq Allowed.of_sublist hgreedy
    (flatten_fill width lines.flatten)

end Line

/-! ## Reflowed text -/

namespace Token

/-- The tokens of reflowed text are those of the layout, read again. -/
theorem ofText_reflow {width : Nat} (hwidth : 0 < width) (s : Text) :
    ofText (reflow width s) = (rereadLines (layout width s)).flatten := by
  have hlaid := laid_layout width s
  by_cases hs : ofText s = []
  · have hnil : layout width s = [] := by
      rw [layout, hs]
      rfl
    rw [reflow_of_eq_nil width hs, hs, hnil]
    rfl
  · rw [reflow_eq_layout hwidth hs, ofText_joinLines hlaid.flatten_eq hlaid.ne_nil]

theorem endsHard_ofText (s : Text) : Cluster.endsHard (ofText s) = false := by
  rw [Cluster.endsHard]
  split
  · next token hlast => exact hardBreak_of_getLast? hlast
  · rfl

theorem kept_layout (width : Nat) (s : Text) :
    List.Forall₂ (List.Forall₂ Kept) (layout width s) (rereadLines (layout width s)) := by
  have hlaid := laid_layout width s
  apply kept_rereadLines hlaid.ne_nil hlaid.unbroken
  · rw [hlaid.flatten_eq]
    exact fun token htoken => endsEscaped_of_hardBreak htoken
  · rw [hlaid.flatten_eq, endsHard_ofText]

/-- Reflow keeps every token of a text, and every hard break. -/
theorem kept_reflow {width : Nat} (hwidth : 0 < width) (s : Text) :
    List.Forall₂ Kept (ofText s) (ofText (reflow width s)) := by
  have hflatten := List.rel_flatten (kept_layout width s)
  rwa [(laid_layout width s).flatten_eq, ← ofText_reflow hwidth s] at hflatten

end Token

/-- The tokens of reflowed text are filled into the same lines. -/
theorem Line.kept_fill (width : Nat) (s : Text) :
    List.Forall₂ (List.Forall₂ (List.Forall₂ Token.Kept))
      (fill width (Cluster.group (Token.ofText s)))
      (fill width (Cluster.group (Token.rereadLines (Token.layout width s)).flatten)) := by
  obtain ⟨lines, hlines, hkept⟩ := exists_of_forall₂_map_flatten (Token.kept_layout width s)
  have hclusters : List.Forall₂ (List.Forall₂ Token.Kept) (Cluster.group (Token.ofText s))
      lines.flatten := by
    have hflatten := List.rel_flatten hkept
    rwa [flatten_fill] at hflatten
  have hne : ∀ line ∈ lines, ∀ cluster ∈ line, cluster ≠ [] := by
    rw [← List.forall_mem_flatten]
    refine forall_mem_of_forall₂ ?_ hclusters (Cluster.greedy_group (Token.ofText s)).ne_nil
    rintro cluster _ h hcluster rfl
    exact hcluster (List.forall₂_nil_right_iff.mp h)
  have hunbroken : ∀ line ∈ lines, (∀ cluster ∈ line.dropLast, Cluster.endsHard cluster = false) ∧
      ∀ cluster ∈ line, ∀ token ∈ cluster.dropLast, token.hardBreak = false := by
    have hread := Token.unbroken_rereadLines (Token.layout width s)
    rw [← hlines, List.forall_mem_map] at hread
    exact fun line hline => (unbroken_flatten_iff (hne line hline)).mp (hread line hline)
  have hgroup : Cluster.group lines.flatten.flatten = lines.flatten := by
    apply Cluster.group_of_kept hclusters
    rw [List.forall_mem_flatten]
    exact fun line hline => (hunbroken line hline).2
  have hfill : fill width lines.flatten = lines :=
    fill_of_kept hkept fun line hline => (hunbroken line hline).1
  rwa [← hlines, ← List.flatten_flatten, hgroup, hfill]

theorem reflow_reflow (width : Nat) (s : Text) :
    reflow width (reflow width s) = reflow width s := by
  cases width with
  | zero => rfl
  | succ n =>
      by_cases hs : Token.ofText s = []
      · rw [reflow_of_eq_nil _ hs, reflow_of_eq_nil _ hs]
      · have hs' : Token.ofText (reflow (n + 1) s) ≠ [] := by
          intro hnil
          have hkept := Token.kept_reflow n.succ_pos s
          rw [hnil] at hkept
          exact hs (List.forall₂_nil_right_iff.mp hkept)
        rw [reflow_eq n.succ_pos hs', Token.ofText_reflow n.succ_pos, reflow_eq n.succ_pos hs,
          map_eq_of_forall₂ (fun _ _ h => Line.text_of_kept h) (Line.kept_fill (n + 1) s)]

namespace Token

theorem eq_of_kept {tokens tokens' : List Token} (h : List.Forall₂ Kept tokens tokens')
    (hsoft : ∀ token ∈ tokens', token.hardBreak = false) : tokens' = tokens := by
  induction h with
  | nil => rfl
  | @cons token token' tokens tokens' hkept _ ih =>
      rw [List.forall_mem_cons] at hsoft
      have hbreak : token'.hardBreak = token.hardBreak :=
        hsoft.1.trans (hkept.hardBreak_eq_false hsoft.1).symm
      have htoken : token' = token := by
        cases token
        cases token'
        rw [mk.injEq]
        exact ⟨hkept.text_eq, hbreak⟩
      rw [htoken, ih hsoft.2]

theorem ofText_reflow_of_unescaped {s : Text}
    (hs : ∀ token ∈ ofText s, endsEscaped token.text = false) {width : Nat} (hwidth : 0 < width) :
    ofText (reflow width s) = ofText s := by
  have hkept := kept_reflow hwidth s
  have hunescaped : ∀ token ∈ ofText (reflow width s), endsEscaped token.text = false :=
    forall_mem_of_forall₂ (fun _ _ h htext => by rwa [h.text_eq]) hkept hs
  apply eq_of_kept hkept
  intro token htoken
  rw [← Bool.not_eq_true]
  intro hbreak
  have hescaped := endsEscaped_of_hardBreak htoken hbreak
  rw [hunescaped token htoken] at hescaped
  cases hescaped

end Token

/-- Reflow keeps the texts of the tokens, and a second reflow changes nothing.  A text whose tokens
never end in an odd number of backslashes is reflowed alike however its lines were broken before. -/
theorem reflow_stable (s : Text) {width : Nat} (hwidth : 0 < width) :
    (Token.ofText (reflow width s)).map (·.text) = (Token.ofText s).map (·.text) ∧
    reflow width (reflow width s) = reflow width s ∧
    ((∀ token ∈ Token.ofText s, Token.endsEscaped token.text = false) →
      ∀ first, 0 < first → reflow width (reflow first s) = reflow width s) := by
  refine ⟨map_eq_of_forall₂ (fun _ _ h => h.text_eq) (Token.kept_reflow hwidth s),
    reflow_reflow width s, fun hunescaped first hfirst => ?_⟩
  by_cases hs : Token.ofText s = []
  · rw [reflow_of_eq_nil first hs]
  · have htokens := Token.ofText_reflow_of_unescaped hunescaped hfirst
    rw [reflow_eq hwidth (htokens ▸ hs), htokens, reflow_eq hwidth hs]

/-- A link over a line break, and a bullet that must not start a line. -/
theorem reflow_stable_link :
    reflow 8 "one [two\nthree](four) - five".toList =
      "one\n[two\nthree](four) -\nfive".toList ∧
    reflow 8 "one\n[two\nthree](four) -\nfive".toList =
      "one\n[two\nthree](four) -\nfive".toList ∧
    ∀ first, 0 < first → reflow 8 (reflow first "one [two\nthree](four) - five".toList) =
      "one\n[two\nthree](four) -\nfive".toList := by
  have hreflow : reflow 8 "one [two\nthree](four) - five".toList =
      "one\n[two\nthree](four) -\nfive".toList := by decide +kernel
  obtain ⟨_, htwice, hother⟩ :=
    reflow_stable "one [two\nthree](four) - five".toList (show 0 < 8 by decide)
  rw [hreflow] at htwice hother
  exact ⟨hreflow, htwice, hother (by decide +kernel)⟩

end Tidymark
