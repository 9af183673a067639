import Tidymark.Proofs.Reflow.Content
import Tidymark.Proofs.Text.LineEnds
import Tidymark.Render

/-!
# Line ends of a paragraph

Reflow ends each line behind a token, and the repair of links puts a space
only where the line goes on.  So a paragraph that was tidied is flush however
it is rendered.
-/

namespace Tidymark

/-! ## Filled lines -/

theorem Cluster.ne_nil_of_mem_groupFrom {current : Cluster} (hcurrent : current ≠ [])
    {tokens : List Token} {cluster : Cluster} (h : cluster ∈ groupFrom current tokens) :
    cluster ≠ [] := by
  fun_induction groupFrom current tokens with
  | case1 current =>
      rw [List.mem_singleton] at h
      rwa [h]
  | case2 current token rest _ ih => exact ih (by simp) h
  | case3 current token rest _ ih =>
      rcases List.mem_cons.mp h with rfl | h
      · exact hcurrent
      · exact ih (List.cons_ne_nil _ _) h

theorem Cluster.tight_of_mem_group {tokens : List Token}
    (htokens : ∀ token ∈ tokens, Text.IsWord token.text) {cluster : Cluster}
    (h : cluster ∈ group tokens) : Text.Tight cluster.text := by
  have hne : cluster ≠ [] := by
    cases tokens with
    | nil => cases h
    | cons token rest => exact ne_nil_of_mem_groupFrom (List.cons_ne_nil _ _) h
  apply Text.tight_joinWords
  · exact fun hnil => hne (List.map_eq_nil_iff.mp hnil)
  · intro t ht
    obtain ⟨token, htoken, rfl⟩ := List.mem_map.mp ht
    have hmem : token ∈ tokens := by
      rw [← flatten_group tokens]
      exact List.mem_flatten_of_mem h htoken
    exact (htokens token hmem).tight

/-- Reflow leaves no space at the end of a line, unless in a link. -/
theorem flush_reflow (width : Nat) {s : Text} (hs : Text.Flush s)
    (hlink : Link.pattern.occursIn s = false) : Text.Flush (reflow width s) := by
  unfold reflow
  split
  · exact hs
  · exact hs
  · next width _ _ _ _ =>
    apply Text.flush_joinLines
    intro l hl
    obtain ⟨line, hline, rfl⟩ := List.mem_map.mp hl
    have hclusters : ∀ t ∈ line.map Cluster.text, Text.Tight t := by
      intro t ht
      obtain ⟨cluster, hcluster, rfl⟩ := List.mem_map.mp ht
      apply Cluster.tight_of_mem_group fun token htoken => Token.isWord_of_mem_ofText hlink htoken
      have hfill := Line.flatten_fillFrom width [] (Cluster.group (Token.ofText s))
      rw [List.nil_append] at hfill
      rw [← hfill]
      exact List.mem_flatten_of_mem hline hcluster
    by_cases hne : line.map Cluster.text = []
    · rw [Line.text, hne]
      exact ⟨List.not_mem_nil, fun a ha => by cases ha⟩
    · have htight := Text.tight_joinWords hne hclusters
      exact ⟨htight.not_mem, fun a ha => Text.isSpaceOrTab_of_not_blank (htight.last a ha)⟩

/-! ## The repair of links -/

/-- A text with some runs of blanks in front of other characters made one space. -/
inductive Text.Rejoined : Text → Text → Prop where
  | nil : Rejoined [] []
  | char (c : Char) {s t : Text} (h : Rejoined s t) : Rejoined (c :: s) (c :: t)
  | blanks {g : Text} (hg : g ≠ []) (hgs : ∀ a ∈ g, isBlank a = true) {c : Char}
      (hc : isBlank c = false) {s t : Text} (h : Rejoined (c :: s) t) :
      Rejoined (g ++ c :: s) (' ' :: t)

namespace Text.Rejoined

theorem refl (s : Text) : Rejoined s s := by
  induction s with
  | nil => exact .nil
  | cons c s ih => exact .char c ih

theorem append {s t s' t' : Text} (h : Rejoined s t) (h' : Rejoined s' t') :
    Rejoined (s ++ s') (t ++ t') := by
  induction h with
  | nil => exact h'
  | char c _ ih => exact .char c ih
  | blanks hg hgs hc _ ih =>
      rw [List.append_assoc]
      exact .blanks hg hgs hc ih

theorem exists_cons {b : Char} {r t : Text} (h : Rejoined (b :: r) t) (hb : b ≠ '\n') :
    ∃ a u, t = a :: u ∧ a ≠ '\n' := by
  generalize hs : b :: r = s at h
  cases h with
  | nil => cases hs
  | char c h =>
      cases hs
      exact ⟨b, _, rfl, hb⟩
  | blanks hg hgs hc h => exact ⟨' ', _, rfl, by decide⟩

/-- Rejoining leaves a flush text flush: each new space stands in front of a character. -/
theorem flush {s t : Text} (h : Rejoined s t) (hs : Flush s) : Flush t := by
  induction h with
  | nil => exact hs
  | @char c s t h ih =>
      rw [flush_cons_iff] at hs ⊢
      refine ⟨fun hspace => ?_, ih hs.2⟩
      obtain ⟨b, r, rfl, hb⟩ := hs.1 hspace
      exact h.exists_cons hb
  | @blanks g hg hgs c hc s t h ih =>
      have hbreak : c ≠ '\n' := by
        rintro rfl
        cases hc
      rw [flush_cons_iff]
      exact ⟨fun _ => h.exists_cons hbreak, ih (hs.of_append_right g)⟩

end Text.Rejoined

namespace BrokenLink

theorem rejoined_unbreak (s : Text) {c : Char} (hc : isBlank c = false) (r : Text) :
    Text.Rejoined (s ++ c :: r) (unbreak s ++ c :: r) := by
  fun_induction unbreak s with
  | case1 => exact .refl _
  | case2 a s ha run ih =>
      have hrun : ∀ b ∈ run, isBlank b = true := by
        intro b hb
        rcases List.mem_cons.mp hb with rfl | hb
        · exact ha
        · exact List.mem_takeWhile_imp hb
      have hsplit : a :: s = run ++ s.dropWhile isBlank := by
        rw [List.cons_append, List.takeWhile_append_dropWhile]
      rw [hsplit, List.append_assoc, List.append_assoc]
      split
      · -- The run ends in front of a character of the label, or of the one behind the label.
        cases hrest : s.dropWhile isBlank with
        | nil =>
            rw [hrest] at ih
            exact .blanks (List.cons_ne_nil _ _) hrun hc ih
        | cons d rest =>
            have hd : isBlank d = false :=
              Text.not_of_head?_dropWhile (by rw [hrest, List.head?_cons])
            rw [hrest] at ih
            exact .blanks (List.cons_ne_nil _ _) hrun hd ih
      · exact (Text.Rejoined.refl run).append ih
  | case3 a s _ ih => exact .char a ih

theorem rejoined_mend (link : Link) : Text.Rejoined link.source (mend link).source := by
  have hlabel := rejoined_unbreak link.label (c := ']') rfl ('(' :: link.destination ++ [')'])
  have hsource := (Text.Rejoined.refl (if link.image then ['!'] else [])).append (.char '[' hlabel)
  simp only [Link.source, mend, List.append_assoc, List.cons_append] at hsource ⊢
  exact hsource

theorem flush_repairRounds (rounds : Nat) {s : Text} (hs : Text.Flush s) :
    Text.Flush (repairRounds rounds s) := by
  induction rounds generalizing s with
  | zero => exact hs
  | succ n ih =>
      rw [repairRounds]
      split
      · have hmended := pattern.relates_replace Text.Rejoined.refl Text.Rejoined.append
          rejoined_mend s
        exact ih (hmended.flush hs)
      · exact hs

/-- The repair of links leaves no space at the end of a line. -/
theorem flush_repair {s : Text} (hs : Text.Flush s) : Text.Flush (repair s) :=
  flush_repairRounds _ hs

end BrokenLink

theorem Render.flush_paragraphText (lineWidth : Nat) {s : Text} (hs : Text.Flush s) :
    Text.Flush (paragraphText lineWidth s) := by
  have hrepaired := BrokenLink.flush_repair hs
  rw [paragraphText]
  split
  · exact hrepaired
  · next hlink => exact flush_reflow lineWidth hrepaired (by simpa using hlink)

end Tidymark
