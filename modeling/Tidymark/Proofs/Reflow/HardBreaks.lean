import Tidymark.Proofs.Reflow.Stability

/-!
# Hard breaks in reflowed text

Reflow makes a hard break wherever it ends a line behind a token with an odd
number of backslashes at its end.  The hard breaks of a text stay what they
were exactly if it does so only where there was one.
-/

namespace Tidymark

namespace Token

/-- The last token of a line decides whether its hard breaks stay what they were. -/
theorem map_hardBreak_rereadLine_iff {follows : Bool} {line : List Token}
    (hunbroken : ∀ token ∈ line.dropLast, token.hardBreak = false) :
    (rereadLine follows line).map (·.hardBreak) = line.map (·.hardBreak) ↔
      ∀ token, line.getLast? = some token →
        (follows && endsEscaped token.text) = token.hardBreak := by
  fun_induction rereadLine follows line with
  | case1 => simp
  | case2 token => simp
  | case3 token next rest ih =>
      rw [List.dropLast_cons_cons, List.forall_mem_cons] at hunbroken
      rw [List.map_cons, List.map_cons, List.cons.injEq, and_iff_right hunbroken.1.symm,
        ih hunbroken.2, List.getLast?_cons_cons]

theorem length_rereadLine (follows : Bool) (line : List Token) :
    (rereadLine follows line).length = line.length := by
  fun_induction rereadLine follows line with
  | case1 => rfl
  | case2 token => rfl
  | case3 token next rest ih => exact congrArg (· + 1) ih

/-- The last tokens of the lines, but for the last line, decide whether the hard breaks stay what
they were. -/
theorem map_hardBreak_rereadLines_iff {lines : List (List Token)}
    (hne : ∀ line ∈ lines, line ≠ [])
    (hunbroken : ∀ line ∈ lines, ∀ token ∈ line.dropLast, token.hardBreak = false)
    (hescaped : ∀ token ∈ lines.flatten, token.hardBreak = true → endsEscaped token.text = true)
    (hend : Cluster.endsHard lines.flatten = false) :
    (rereadLines lines).flatten.map (·.hardBreak) = lines.flatten.map (·.hardBreak) ↔
      ∀ line ∈ lines.dropLast, ∀ token, line.getLast? = some token →
        endsEscaped token.text = true → token.hardBreak = true := by
  induction lines with
  | nil => simp [rereadLines]
  | cons line rest ih =>
      rw [List.forall_mem_cons] at hne hunbroken
      rw [List.flatten_cons] at hend hescaped
      rw [List.forall_mem_append] at hescaped
      cases rest with
      | nil =>
          rw [List.flatten_nil, List.append_nil, Cluster.endsHard] at hend
          have hlast : ∀ token, line.getLast? = some token →
              (false && endsEscaped token.text) = token.hardBreak := by
            intro token htoken
            rw [htoken] at hend
            exact hend.symm
          simpa [rereadLines] using (map_hardBreak_rereadLine_iff hunbroken.1).mpr hlast
      | cons next rest =>
          rw [Cluster.endsHard_append (flatten_ne_nil (List.cons_ne_nil _ _) hne.2)] at hend
          have hlength : ((rereadLine true line).map (·.hardBreak)).length =
              (line.map (·.hardBreak)).length := by
            rw [List.length_map, List.length_map, length_rereadLine]
          have hline : (∀ token, line.getLast? = some token →
              (true && endsEscaped token.text) = token.hardBreak) ↔
              ∀ token, line.getLast? = some token →
                endsEscaped token.text = true → token.hardBreak = true := by
            refine forall₂_congr fun token htoken => ?_
            rw [Bool.true_and, Bool.eq_iff_iff]
            exact ⟨Iff.mp, fun h => ⟨h, hescaped.1 token (List.mem_of_getLast? htoken)⟩⟩
          calc (rereadLines (line :: next :: rest)).flatten.map (·.hardBreak) =
                (line :: next :: rest).flatten.map (·.hardBreak)
            _ ↔ (rereadLine true line).map (·.hardBreak) = line.map (·.hardBreak) ∧
                  (rereadLines (next :: rest)).flatten.map (·.hardBreak) =
                    (next :: rest).flatten.map (·.hardBreak) := by
                rw [rereadLines, List.flatten_cons, List.flatten_cons, List.map_append,
                  List.map_append]
                exact ⟨fun h => List.append_inj h hlength,
                  fun h => congrArg₂ (· ++ ·) h.1 h.2⟩
            _ ↔ _ := by
                rw [map_hardBreak_rereadLine_iff hunbroken.1, hline,
                  ih hne.2 hunbroken.2 hescaped.2 hend, List.dropLast_cons_cons,
                  List.forall_mem_cons]

/-- Reflow keeps every hard break, and makes no other exactly if it ends no line, but for the last,
behind a token that ends in an odd number of backslashes without one. -/
theorem hardBreak_reflow (s : Text) {width : Nat} (hwidth : 0 < width) :
    List.Forall₂ Kept (ofText s) (ofText (reflow width s)) ∧
    ((ofText (reflow width s)).map (·.hardBreak) = (ofText s).map (·.hardBreak) ↔
      ∀ line ∈ (layout width s).dropLast, ∀ token, line.getLast? = some token →
        endsEscaped token.text = true → token.hardBreak = true) := by
  have hlaid := laid_layout width s
  have hiff := map_hardBreak_rereadLines_iff hlaid.ne_nil hlaid.unbroken
  rw [← ofText_reflow hwidth s, hlaid.flatten_eq] at hiff
  exact ⟨kept_reflow hwidth s,
    hiff (fun token htoken => endsEscaped_of_hardBreak htoken) (endsHard_ofText s)⟩

/-- A hard break that stays, and a backslash that stays inside its line. -/
theorem hardBreak_reflow_inside :
    (ofText (reflow 15 "one\\\ntwo three\\ four".toList)).map (·.hardBreak) =
      [true, false, false, false] := by
  have hkept := (hardBreak_reflow "one\\\ntwo three\\ four".toList (show 0 < 15 by decide)).2.mpr
    (by decide +kernel)
  rw [hkept]
  decide +kernel

/-- A backslash with a space behind it gets a line end behind it. -/
theorem hardBreaks_not_only_kept :
    ¬∀ (s : Text) (width : Nat), 0 < width →
      (ofText (reflow width s)).map (·.hardBreak) = (ofText s).map (·.hardBreak) := by
  intro h
  have hbreaks := h "aa\\ bb".toList 3 (by decide)
  revert hbreaks
  decide +kernel

end Token

end Tidymark
