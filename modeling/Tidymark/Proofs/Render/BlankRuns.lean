import Tidymark.Proofs.Text.Spacing
import Tidymark.Render.BlankLines

/-!
# Capped runs of blank lines

Lines are capped run by run: a run of blank lines is a longest stretch of
them, and of each the first lines stay, as many as the cap allows.  No longer
run is left then, and lines without a longer run stay as they are.
-/

namespace Tidymark

namespace BlankLines

/-! ## Runs and the cap -/

/-- The second lines are the first with each run of blank lines cut down to `cap` lines. -/
inductive Capped (cap : Nat) : List Text → List Text → Prop where
  | nil : Capped cap [] []
  | line {l : Text} {ls ks : List Text} (hl : Text.isAllBlank l = false) (h : Capped cap ls ks) :
      Capped cap (l :: ls) (l :: ks)
  /-- A run goes as far as the next line that is not blank, or to the end. -/
  | run {run ls ks : List Text} (hrun : ∀ l ∈ run, Text.isAllBlank l = true)
      (hnext : ∀ l, ls.head? = some l → Text.isAllBlank l = false) (h : Capped cap ls ks) :
      Capped cap (run ++ ls) (run.take cap ++ ks)

/-- No run of blank lines is longer than the cap. -/
def Fits (cap : Nat) (ls : List Text) : Prop :=
  ∀ run, run <:+: ls → (∀ l ∈ run, Text.isAllBlank l = true) → run.length ≤ cap

theorem Fits.of_infix {cap : Nat} {ls ks : List Text} (h : Fits cap ls) (hks : ks <:+: ls) :
    Fits cap ks :=
  fun run hrun => h run (hrun.trans hks)

theorem Capped.eq_of_fits {cap : Nat} {ls ks : List Text} (h : Capped cap ls ks)
    (hfits : Fits cap ls) : ks = ls := by
  induction h with
  | nil => rfl
  | @line l ls ks _ _ ih => rw [ih (hfits.of_infix (List.suffix_cons l ls).isInfix)]
  | @run run ls ks hrun _ _ ih =>
      have hlength : run.length ≤ cap := hfits run (List.prefix_append run ls).isInfix hrun
      rw [ih (hfits.of_infix (List.suffix_append run ls).isInfix), List.take_of_length_le hlength]

/-! ## What is kept -/

theorem keep_blank {l : Text} (hl : Text.isAllBlank l = true) (cap run : Nat) (ls : List Text) :
    keep cap run (l :: ls) =
      if run < cap then l :: keep cap (run + 1) ls else keep cap (run + 1) ls := by
  rw [keep, if_pos hl]

theorem keep_line {l : Text} (hl : Text.isAllBlank l = false) (cap run : Nat) (ls : List Text) :
    keep cap run (l :: ls) = l :: keep cap 0 ls := by
  rw [keep, if_neg (by simp [hl])]

theorem keep_cons (cap run : Nat) (l : Text) (ls : List Text) :
    ∃ run', keep cap run (l :: ls) = l :: keep cap run' ls ∨
      keep cap run (l :: ls) = keep cap run' ls := by
  cases hl : Text.isAllBlank l with
  | false => exact ⟨0, .inl (keep_line hl cap run ls)⟩
  | true =>
      refine ⟨run + 1, ?_⟩
      rw [keep_blank hl]
      split
      · exact .inl rfl
      · exact .inr rfl

theorem keep_sublist (cap run : Nat) (ls : List Text) : (keep cap run ls).Sublist ls := by
  induction ls generalizing run with
  | nil => exact .slnil
  | cons l ls ih =>
      obtain ⟨run', hkeep | hkeep⟩ := keep_cons cap run l ls
      · rw [hkeep]
        exact (ih run').cons_cons l
      · rw [hkeep]
        exact (ih run').cons l

/-- A line that is not blank ends the run in front of it. -/
theorem keep_append_line {l : Text} (hl : Text.isAllBlank l = false) (cap run : Nat)
    (ls ks : List Text) : keep cap run (ls ++ l :: ks) = keep cap run ls ++ l :: keep cap 0 ks := by
  induction ls generalizing run with
  | nil => exact keep_line hl cap run ks
  | cons k ls ih =>
      cases hk : Text.isAllBlank k with
      | true =>
          rw [List.cons_append, keep_blank hk, keep_blank hk, ih]
          split <;> rfl
      | false => rw [List.cons_append, keep_line hk, keep_line hk, ih, List.cons_append]

/-- Of blank lines as many are kept as the run in front of them leaves of the cap. -/
theorem keep_append_blanks {blanks : List Text} (hblanks : ∀ l ∈ blanks, Text.isAllBlank l = true)
    (cap run : Nat) (ls : List Text) :
    keep cap run (blanks ++ ls) =
      blanks.take (cap - run) ++ keep cap (run + blanks.length) ls := by
  induction blanks generalizing run with
  | nil => simp
  | cons l blanks ih =>
      rw [List.forall_mem_cons] at hblanks
      have hrun : run + 1 + blanks.length = run + (l :: blanks).length := by
        rw [List.length_cons]
        omega
      rw [List.cons_append, keep_blank hblanks.1, ih hblanks.2, hrun]
      split
      · next hlt =>
          have hleft : cap - run = cap - (run + 1) + 1 := by omega
          rw [hleft, List.take_succ_cons, List.cons_append]
      · next hlt =>
          have hnone : cap - (run + 1) = 0 := by omega
          have hnone' : cap - run = 0 := by omega
          rw [hnone, hnone', List.take_zero, List.take_zero]

/-- The count of a run is void in front of a line that is not blank. -/
theorem keep_of_head? {ls : List Text} (hls : ∀ l, ls.head? = some l → Text.isAllBlank l = false)
    (cap run : Nat) : keep cap run ls = keep cap 0 ls := by
  cases ls with
  | nil => rfl
  | cons l ls => rw [keep_line (hls l rfl), keep_line (hls l rfl)]

theorem exists_run {l : Text} (hl : Text.isAllBlank l = true) (rest : List Text) :
    ∃ run next, l :: rest = run ++ next ∧ (∀ k ∈ run, Text.isAllBlank k = true) ∧
      (∀ k, next.head? = some k → Text.isAllBlank k = false) ∧ next.length ≤ rest.length := by
  refine ⟨l :: rest.takeWhile Text.isAllBlank, rest.dropWhile Text.isAllBlank, ?_, ?_, ?_, ?_⟩
  · rw [List.cons_append, List.takeWhile_append_dropWhile]
  · intro k hk
    rcases List.mem_cons.mp hk with rfl | hk
    · exact hl
    · exact List.mem_takeWhile_imp hk
  · intro k hk
    exact Text.not_of_head?_dropWhile hk
  · exact (List.dropWhile_sublist Text.isAllBlank).length_le

/-- The lines kept are the lines capped. -/
theorem capped_keep (cap : Nat) (ls : List Text) : Capped cap ls (keep cap 0 ls) := by
  match ls with
  | [] => exact .nil
  | l :: rest =>
      cases hl : Text.isAllBlank l with
      | false =>
          rw [keep_line hl]
          exact .line hl (capped_keep cap rest)
      | true =>
          obtain ⟨run, next, hsplit, hrun, hnext, hshorter⟩ := exists_run hl rest
          rw [hsplit, keep_append_blanks hrun, keep_of_head? hnext, Nat.sub_zero]
          exact .run hrun hnext (capped_keep cap next)
termination_by ls.length
decreasing_by
  · simp
  · simp only [List.length_cons]
    omega

/-- No longer run than the cap is kept, and in front none longer than the run seen so far leaves
of it. -/
theorem length_le_of_infix_keep (cap run : Nat) (ls : List Text) :
    (∀ blanks, blanks <+: keep cap run ls → (∀ l ∈ blanks, Text.isAllBlank l = true) →
      blanks.length ≤ cap - run) ∧
    ∀ blanks, blanks <:+: keep cap run ls → (∀ l ∈ blanks, Text.isAllBlank l = true) →
      blanks.length ≤ cap := by
  induction ls generalizing run with
  | nil =>
      constructor
      · intro blanks h _
        rw [List.prefix_nil.mp h]
        exact Nat.zero_le _
      · intro blanks h _
        rw [List.infix_nil.mp h]
        exact Nat.zero_le _
  | cons l ls ih =>
      have hfront : ∀ blanks, blanks <+: keep cap run (l :: ls) →
          (∀ k ∈ blanks, Text.isAllBlank k = true) → blanks.length ≤ cap - run := by
        intro blanks hprefix hblanks
        cases hl : Text.isAllBlank l with
        | false =>
            rw [keep_line hl] at hprefix
            rcases List.prefix_cons_iff.mp hprefix with rfl | ⟨tail, rfl, _⟩
            · exact Nat.zero_le _
            · rw [hblanks l List.mem_cons_self] at hl
              cases hl
        | true =>
            rw [keep_blank hl] at hprefix
            have htail := (ih (run + 1)).1
            split at hprefix
            · rcases List.prefix_cons_iff.mp hprefix with rfl | ⟨tail, rfl, hkept⟩
              · exact Nat.zero_le _
              · have hlength := htail tail hkept fun k hk => hblanks k (List.mem_cons_of_mem _ hk)
                rw [List.length_cons]
                omega
            · have hlength := htail blanks hprefix hblanks
              omega
      refine ⟨hfront, ?_⟩
      intro blanks hinfix hblanks
      have hbound := hfront blanks
      obtain ⟨run', hkeep | hkeep⟩ := keep_cons cap run l ls
      · rw [hkeep] at hinfix hbound
        rcases List.infix_cons_iff.mp hinfix with hprefix | hinfix
        · have hlength := hbound hprefix hblanks
          omega
        · exact (ih run').2 blanks hinfix hblanks
      · rw [hkeep] at hinfix
        exact (ih run').2 blanks hinfix hblanks

/-- Capped lines fit. -/
theorem fits_keep (cap : Nat) (ls : List Text) : Fits cap (keep cap 0 ls) :=
  (length_le_of_infix_keep cap 0 ls).2

/-- All lines are kept exactly if they fit. -/
theorem keep_eq_self_iff (cap : Nat) (ls : List Text) : keep cap 0 ls = ls ↔ Fits cap ls := by
  constructor
  · intro h
    rw [← h]
    exact fits_keep cap ls
  · exact (capped_keep cap ls).eq_of_fits

theorem filter_keep (cap run : Nat) (ls : List Text) :
    (keep cap run ls).filter (!Text.isAllBlank ·) = ls.filter (!Text.isAllBlank ·) := by
  induction ls generalizing run with
  | nil => rfl
  | cons l ls ih =>
      cases hl : Text.isAllBlank l with
      | true =>
          rw [keep_blank hl, List.filter_cons_of_neg (by simp [hl])]
          split
          · rw [List.filter_cons_of_neg (by simp [hl]), ih]
          · exact ih _
      | false =>
          rw [keep_line hl, List.filter_cons_of_pos (by simp [hl]),
            List.filter_cons_of_pos (by simp [hl]), ih]

theorem words_keep (cap run : Nat) (ls : List Text) :
    (keep cap run ls).flatMap Text.words = ls.flatMap Text.words := by
  induction ls generalizing run with
  | nil => rfl
  | cons l ls ih =>
      cases hl : Text.isAllBlank l with
      | true =>
          rw [keep_blank hl, List.flatMap_cons, Text.words_of_isAllBlank hl, List.nil_append]
          split
          · rw [List.flatMap_cons, ih, Text.words_of_isAllBlank hl, List.nil_append]
          · exact ih _
      | false => rw [keep_line hl, List.flatMap_cons, ih, List.flatMap_cons]

/-! ## Capped texts -/

/-- The lines kept under the cap of a configuration. -/
def kept (cap : Int) (ls : List Text) : List Text :=
  match cap with
  | .ofNat cap => keep cap 0 ls
  | .negSucc _ => ls

theorem normalize_eq (cap : Int) (s : Text) :
    normalize cap s = Text.joinLines (kept cap (Text.lines s)) := by
  cases cap with
  | ofNat cap => rfl
  | negSucc _ => rw [normalize, kept, Text.joinLines_lines]

theorem kept_sublist (cap : Int) (ls : List Text) : (kept cap ls).Sublist ls := by
  cases cap with
  | ofNat cap => exact keep_sublist cap 0 ls
  | negSucc _ => exact .refl ls

theorem kept_append_line {l : Text} (hl : Text.isAllBlank l = false) (cap : Int)
    (ls ks : List Text) : kept cap (ls ++ l :: ks) = kept cap ls ++ l :: kept cap ks := by
  cases cap with
  | ofNat cap => exact keep_append_line hl cap 0 ls ks
  | negSucc _ => rfl

theorem capped_kept {cap : Nat} (ls : List Text) : Capped cap ls (kept cap ls) :=
  capped_keep cap ls

theorem kept_eq_self_iff (cap : Int) (ls : List Text) :
    kept cap ls = ls ↔ ∀ n : Nat, cap = n → Fits n ls := by
  cases cap with
  | ofNat cap =>
      rw [kept, keep_eq_self_iff]
      constructor
      · rintro h n hn
        cases Int.ofNat.inj hn
        exact h
      · intro h
        exact h cap rfl
  | negSucc k =>
      refine ⟨fun _ n hn => ?_, fun _ => rfl⟩
      cases hn

theorem filter_kept (cap : Int) (ls : List Text) :
    (kept cap ls).filter (!Text.isAllBlank ·) = ls.filter (!Text.isAllBlank ·) := by
  cases cap with
  | ofNat cap => exact filter_keep cap 0 ls
  | negSucc _ => rfl

/-- What a cap leaves of a run of blank lines: all of it, if the cap is negative. -/
def cut (cap : Int) (run : List Text) : List Text :=
  match cap with
  | .ofNat cap => run.take cap
  | .negSucc _ => run

theorem kept_of_blanks {run : List Text} (hrun : ∀ l ∈ run, Text.isAllBlank l = true) (cap : Int) :
    kept cap run = cut cap run := by
  cases cap with
  | ofNat cap =>
      have hkeep := keep_append_blanks hrun cap 0 []
      rwa [List.append_nil, Nat.sub_zero, keep, List.append_nil] at hkeep
  | negSucc _ => rfl

theorem words_kept (cap : Int) (ls : List Text) :
    (kept cap ls).flatMap Text.words = ls.flatMap Text.words := by
  cases cap with
  | ofNat cap => exact words_keep cap 0 ls
  | negSucc _ => rfl

theorem words_normalize (cap : Int) (s : Text) : Text.words (normalize cap s) = Text.words s := by
  rw [normalize_eq, Text.words_joinLines, words_kept, Text.flatMap_words_lines]

end BlankLines

end Tidymark
