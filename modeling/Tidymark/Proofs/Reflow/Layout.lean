import Tidymark.Proofs.Reflow.Filling
import Tidymark.Proofs.Reflow.Rereading

/-!
# The layout of reflowed text

Reflow puts the tokens of a text on lines.  A line is wider than allowed only
if it is one token with block openers behind it, starts with a block opener
only behind a hard break, and ends with its first hard break.
-/

namespace Tidymark

/-! ## Clusters on a line -/

namespace Cluster

theorem forall_hardBreak_iff (cluster : Cluster) :
    (∀ token ∈ cluster, token.hardBreak = false) ↔
      cluster.endsHard = false ∧ ∀ token ∈ cluster.dropLast, token.hardBreak = false := by
  rcases List.eq_nil_or_concat' cluster with rfl | ⟨front, last, rfl⟩
  · simp [endsHard]
  · rw [endsHard_append_singleton, List.dropLast_concat, List.forall_mem_append,
      List.forall_mem_singleton, and_comm]

theorem endsHard_append {cluster : Cluster} (hne : cluster ≠ []) (front : Cluster) :
    endsHard (front ++ cluster) = cluster.endsHard := by
  rw [endsHard, endsHard, List.getLast?_append_of_ne_nil front hne]

end Cluster

namespace Line

theorem text_eq {line : Line} (h : ∀ cluster ∈ line, cluster ≠ []) :
    line.text = Cluster.text line.flatten := by
  induction line with
  | nil => rfl
  | cons cluster rest ih =>
      rw [List.forall_mem_cons] at h
      by_cases hrest : rest = []
      · subst hrest
        simp [text, Text.joinWords]
      · have hflatten : rest.flatten ≠ [] := flatten_ne_nil hrest h.2
        have hline : Text.joinWords ([cluster.text] ++ rest.map Cluster.text) =
            Text.joinWords [cluster.text] ++ ' ' :: Text.joinWords (rest.map Cluster.text) :=
          Text.joinWords_append (List.cons_ne_nil _ _) (mt List.map_eq_nil_iff.mp hrest)
        have htokens : Text.joinWords (cluster.map (·.text) ++ rest.flatten.map (·.text)) =
            cluster.text ++ ' ' :: Cluster.text rest.flatten :=
          Text.joinWords_append (mt List.map_eq_nil_iff.mp h.1) (mt List.map_eq_nil_iff.mp hflatten)
        calc text (cluster :: rest) = cluster.text ++ ' ' :: text rest := hline
          _ = cluster.text ++ ' ' :: Cluster.text rest.flatten := by rw [ih h.2]
          _ = Cluster.text (cluster :: rest).flatten := by
            rw [← htokens, List.flatten_cons, ← List.map_append, Cluster.text]

theorem unbroken_flatten_iff {line : Line} (hne : ∀ cluster ∈ line, cluster ≠ []) :
    (∀ token ∈ line.flatten.dropLast, token.hardBreak = false) ↔
      (∀ cluster ∈ line.dropLast, cluster.endsHard = false) ∧
        ∀ cluster ∈ line, ∀ token ∈ cluster.dropLast, token.hardBreak = false := by
  rcases List.eq_nil_or_concat' line with rfl | ⟨front, last, rfl⟩
  · simp
  · rw [List.forall_mem_append, List.forall_mem_singleton] at hne
    rw [List.dropLast_concat, List.flatten_append, List.flatten_singleton,
      List.dropLast_append_of_ne_nil hne.2, List.forall_mem_append, List.forall_mem_append,
      List.forall_mem_singleton, List.forall_mem_flatten, ← and_assoc]
    constructor
    · rintro ⟨hfront, hlast⟩
      have hparts := fun cluster hcluster =>
        (Cluster.forall_hardBreak_iff cluster).mp (hfront cluster hcluster)
      exact ⟨⟨fun cluster hcluster => (hparts cluster hcluster).1,
        fun cluster hcluster => (hparts cluster hcluster).2⟩, hlast⟩
    · rintro ⟨⟨hsoft, hunbroken⟩, hlast⟩
      exact ⟨fun cluster hcluster => (Cluster.forall_hardBreak_iff cluster).mpr
        ⟨hsoft cluster hcluster, hunbroken cluster hcluster⟩, hlast⟩

/-- A line wider than allowed is one cluster. -/
theorem Allowed.opensBlock_of_wide {width : Nat} {line : Line} (h : Allowed width line)
    (hjoined : ∀ cluster ∈ line, cluster.Joined) (hwide : width < line.width) :
    ∀ token ∈ line.flatten.tail, Token.opensBlock token.text = true := by
  have hlength : ¬2 ≤ line.length := fun hlength => absurd (h.fits hlength) (Nat.not_le.mpr hwide)
  match line with
  | [] => simp
  | [cluster] =>
      rw [List.flatten_singleton]
      exact (hjoined cluster List.mem_cons_self).opens
  | first :: second :: rest => simp at hlength

/-- A line starts with a block opener only if the line in front ends hard. -/
theorem isChain_map_flatten {lines : List Line} (h : Greedy Cluster.Joined lines.flatten)
    (hne : ∀ line ∈ lines, line ≠ []) :
    (lines.map List.flatten).IsChain fun line next =>
      ∀ token, next.head? = some token → Token.opensBlock token.text = true →
        Cluster.endsHard line = true := by
  induction lines with
  | nil => exact .nil
  | cons line rest ih =>
      rw [List.forall_mem_cons] at hne
      cases rest with
      | nil => exact .singleton _
      | cons next rest =>
          rw [List.flatten_cons] at h
          refine List.isChain_cons_cons.mpr ⟨?_, ih h.of_append hne.2⟩
          intro token htoken hopens
          obtain ⟨front, cluster, rfl⟩ := (List.eq_nil_or_concat' line).resolve_left hne.1
          rw [List.append_assoc] at h
          cases h.of_append with
          | cons hcluster hjoined hfull _ =>
              have hhead : (next :: rest).flatten.flatten.head? = some token := by
                rw [List.flatten_cons, List.flatten_append, List.head?_append, htoken,
                  Option.some_or]
              have hnot := hfull token hhead
              rw [Cluster.joined_append_singleton_iff hcluster hjoined] at hnot
              rw [List.flatten_append, List.flatten_singleton, Cluster.endsHard_append hcluster]
              simpa [hopens] using hnot

end Line

namespace Token

/-- The tokens of a text on the lines of its reflow. -/
def layout (width : Nat) (s : Text) : List (List Token) :=
  (Line.fill width (Cluster.group (ofText s))).map List.flatten

/-- Lines of the tokens of a text, in order: a line wider than allowed is a token with block
openers behind it, a line that starts with a block opener stands behind a hard break, and hard
breaks stand at the ends of lines. -/
structure Laid (width : Nat) (tokens : List Token) (lines : List (List Token)) : Prop where
  flatten_eq : lines.flatten = tokens
  ne_nil : ∀ line ∈ lines, line ≠ []
  opens_of_wide : ∀ line ∈ lines, width < (Text.joinWords (line.map (·.text))).length →
    ∀ token ∈ line.tail, opensBlock token.text = true
  endsHard_of_opens : lines.IsChain fun line next =>
    ∀ token, next.head? = some token → opensBlock token.text = true →
      Cluster.endsHard line = true
  unbroken : ∀ line ∈ lines, ∀ token ∈ line.dropLast, token.hardBreak = false

theorem laid_layout (width : Nat) (s : Text) : Laid width (ofText s) (layout width s) := by
  have hclusters := Cluster.greedy_group (ofText s)
  have hlines := Line.greedy_fill width (Cluster.group (ofText s))
  have hne := Line.forall_mem_fill width hclusters.ne_nil
  have hjoined := Line.forall_mem_fill width hclusters.allowed
  constructor
  · rw [layout, ← List.flatten_flatten, Line.flatten_fill, Cluster.flatten_group]
  · rw [layout, List.forall_mem_map]
    exact fun line hline => flatten_ne_nil (hlines.ne_nil line hline) (hne line hline)
  · rw [layout, List.forall_mem_map]
    intro line hline hwide
    refine (hlines.allowed line hline).opensBlock_of_wide (hjoined line hline) ?_
    rw [Line.width, Line.text_eq (hne line hline)]
    exact hwide
  · apply Line.isChain_map_flatten
    · rwa [Line.flatten_fill]
    · exact hlines.ne_nil
  · rw [layout, List.forall_mem_map]
    intro line hline
    rw [Line.unbroken_flatten_iff (hne line hline)]
    exact ⟨(hlines.allowed line hline).unbroken,
      fun cluster hcluster => (hjoined line hline cluster hcluster).unbroken⟩

/-- The tokens on the lines of a text without links are words. -/
theorem isWord_of_mem_layout {width : Nat} {s : Text} (hs : Link.pattern.occursIn s = false)
    {line : List Token} (hline : line ∈ layout width s) :
    ∀ w ∈ line.map (·.text), Text.IsWord w := by
  intro w hw
  obtain ⟨token, htoken, rfl⟩ := List.mem_map.mp hw
  apply isWord_of_mem_ofText hs
  rw [← (laid_layout width s).flatten_eq]
  exact List.mem_flatten_of_mem hline htoken

theorem reflow_eq_layout {width : Nat} (hwidth : 0 < width) {s : Text} (hs : ofText s ≠ []) :
    reflow width s = Text.joinLines ((layout width s).map Cluster.text) := by
  have hne := Line.forall_mem_fill width (Cluster.greedy_group (ofText s)).ne_nil
  rw [reflow_eq hwidth hs, layout, List.map_map]
  congr 1
  exact List.map_congr_left fun line hline => Line.text_eq (hne line hline)

/-- A text with tokens is reflowed into lines of them, joined by line feeds, in a valid layout. -/
theorem exists_laid_reflow {s : Text} (hs : ofText s ≠ []) {width : Nat} (hwidth : 0 < width) :
    ∃ lines, Laid width (ofText s) lines ∧
      reflow width s =
        Text.joinLines (lines.map fun line => Text.joinWords (line.map (·.text))) :=
  ⟨layout width s, laid_layout width s, reflow_eq_layout hwidth hs⟩

/-- Block openers that make a line too wide. -/
theorem exists_laid_reflow_openers :
    ∃ lines, Laid 10 (ofText "xxxxxxxx + - cccc".toList) lines ∧
      "xxxxxxxx + -\ncccc".toList =
        Text.joinLines (lines.map fun line => Text.joinWords (line.map (·.text))) := by
  have hreflow : reflow 10 "xxxxxxxx + - cccc".toList = "xxxxxxxx + -\ncccc".toList := by
    decide +kernel
  have htokens : ofText "xxxxxxxx + - cccc".toList ≠ [] := by decide +kernel
  obtain ⟨lines, hlaid, hlines⟩ := exists_laid_reflow htokens (show 0 < 10 by decide)
  exact ⟨lines, hlaid, hreflow.symm.trans hlines⟩

end Token

end Tidymark
