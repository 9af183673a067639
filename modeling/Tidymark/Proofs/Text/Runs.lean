import Mathlib.Data.List.SplitBy
import Tidymark.Inline.CodeSpan

/-!
# Runs

A list is split into runs in which each element is related to the next.  An
element in front of a list goes to its first run or is a run of its own.

A text is read run by run of one character: it is empty, or it starts with
another character, or with a run of the given one that something else or
nothing follows.  A search for a run of one length sees nothing of a text but
the lengths of its runs.
-/

namespace Tidymark

section SplitBy

variable {α : Type} {r : α → α → Bool}

theorem exists_splitBy_cons (r : α → α → Bool) (a : α) (l : List α) :
    ∃ run runs, (a :: l).splitBy r = (a :: run) :: runs := by
  cases hsplit : (a :: l).splitBy r with
  | nil => exact absurd hsplit (by simp)
  | cons run runs =>
      obtain ⟨hflatten, hne, _, _⟩ := List.splitBy_eq_iff.mp hsplit
      cases run with
      | nil => exact absurd List.mem_cons_self hne
      | cons b run =>
          cases hflatten
          exact ⟨run, runs, rfl⟩

theorem splitBy_cons_of_rel {a b : α} {l run : List α} {runs : List (List α)} (h : r a b = true)
    (hsplit : (b :: l).splitBy r = (b :: run) :: runs) :
    (a :: b :: l).splitBy r = (a :: b :: run) :: runs := by
  obtain ⟨hflatten, hne, hruns, hbetween⟩ := List.splitBy_eq_iff.mp hsplit
  rw [List.mem_cons, not_or] at hne
  rw [List.forall_mem_cons] at hruns
  refine List.splitBy_eq_iff.mpr ⟨?_, ?_, ?_, ?_⟩
  · rw [hflatten]
    rfl
  · simpa using hne.2
  · rw [List.forall_mem_cons]
    exact ⟨List.isChain_cons_cons.mpr ⟨h, hruns.1⟩, hruns.2⟩
  · rw [List.isChain_cons] at hbetween ⊢
    refine ⟨fun next hnext => ?_, hbetween.2⟩
    obtain ⟨_, hhead, hlast⟩ := hbetween.1 next hnext
    exact ⟨List.cons_ne_nil _ _, hhead, by rwa [List.getLast_cons_cons]⟩

theorem splitBy_cons_of_not_rel {a b : α} (h : r a b = false) (l : List α) :
    (a :: b :: l).splitBy r = [a] :: (b :: l).splitBy r := by
  have hlast : ∀ x ∈ [a].getLast?, r x b = false := by simpa using h
  exact List.splitBy_append_cons l hlast

end SplitBy

namespace Text

theorem replicate_runLength_append_drop (c : Char) (s : Text) :
    List.replicate (runLength c s) c ++ s.drop (runLength c s) = s := by
  rw [← take_runLength, List.take_append_drop]

theorem runLength_replicate_append (c : Char) (n : Nat) (s : Text) :
    runLength c (List.replicate n c ++ s) = n + runLength c s := by
  induction n with
  | zero => simp
  | succ n ih =>
      rw [List.replicate_succ, List.cons_append, runLength, if_pos rfl, ih, Nat.add_right_comm]

theorem runLength_eq_zero {c : Char} {s : Text} (h : s.head? ≠ some c) :
    runLength c s = 0 := by
  cases s with
  | nil => rfl
  | cons d s => exact if_neg (by simpa using h)

theorem exists_of_le_runLength {c : Char} {n : Nat} {s : Text} (h : n ≤ runLength c s) :
    ∃ r, s = List.replicate n c ++ r := by
  obtain ⟨k, hk⟩ := Nat.exists_eq_add_of_le h
  refine ⟨List.replicate k c ++ s.drop (runLength c s), ?_⟩
  rw [← List.append_assoc, List.replicate_append_replicate, ← hk,
    replicate_runLength_append_drop]

theorem head?_drop_runLength (c : Char) (s : Text) :
    (s.drop (runLength c s)).head? ≠ some c := by
  induction s with
  | nil => simp
  | cons d s ih =>
      by_cases hd : d = c
      · rwa [runLength, if_pos hd, List.drop_succ_cons]
      · simp [runLength, hd]

/-- Induction along the runs of a character. -/
@[elab_as_elim]
theorem runInduction (c : Char) {motive : Text → Prop} (nil : motive [])
    (char : ∀ d s, d ≠ c → motive s → motive (d :: s))
    (run : ∀ n s, n ≠ 0 → s.head? ≠ some c → motive s → motive (List.replicate n c ++ s))
    (s : Text) : motive s := by
  induction hn : s.length using Nat.strongRecOn generalizing s with
  | ind n ih =>
    cases s with
    | nil => exact nil
    | cons d s =>
        by_cases hd : d = c
        · subst hd
          rw [← replicate_runLength_append_drop d (d :: s)]
          have hrun : runLength d (d :: s) ≠ 0 := by simp [runLength]
          refine run _ _ hrun (head?_drop_runLength d _) (ih _ ?_ _ rfl)
          rw [← hn, List.length_drop, List.length_cons]
          omega
        · exact char d s hd (ih _ (by rw [← hn]; exact Nat.lt_succ_self _) s rfl)

/-! ## Their lengths -/

/-- The lengths of the runs of `c` in a text behind `held` more of them. -/
def runsFrom (c : Char) (held : Nat) : Text → List Nat
  | [] => if held = 0 then [] else [held]
  | d :: s =>
      if d = c then runsFrom c (held + 1) s
      else if held = 0 then runsFrom c 0 s
      else held :: runsFrom c 0 s

def runs (c : Char) (s : Text) : List Nat := runsFrom c 0 s

variable {c : Char}

@[simp] theorem runs_nil : runs c [] = [] := rfl

theorem runs_cons {d : Char} (hd : d ≠ c) (s : Text) : runs c (d :: s) = runs c s := by
  rw [runs, runsFrom, if_neg hd, if_pos rfl, runs]

theorem runsFrom_replicate (held n : Nat) (s : Text) :
    runsFrom c held (List.replicate n c ++ s) = runsFrom c (held + n) s := by
  induction n generalizing held with
  | zero => rfl
  | succ n ih =>
      rw [List.replicate_succ, List.cons_append, runsFrom, if_pos rfl, ih, Nat.add_assoc,
        Nat.add_comm 1 n]

theorem runsFrom_of_head? {held : Nat} (hheld : held ≠ 0) {s : Text} (hs : s.head? ≠ some c) :
    runsFrom c held s = held :: runs c s := by
  cases s with
  | nil => rw [runsFrom, if_neg hheld, runs_nil]
  | cons d s =>
      have hd : d ≠ c := by simpa using hs
      rw [runsFrom, if_neg hd, if_neg hheld, runs_cons hd, runs]

theorem runs_run {n : Nat} (hn : n ≠ 0) {s : Text} (hs : s.head? ≠ some c) :
    runs c (List.replicate n c ++ s) = n :: runs c s := by
  rw [runs, runsFrom_replicate, Nat.zero_add, runsFrom_of_head? hn hs]

/-- The runs of a text that does not end in one go on with those behind it. -/
theorem runs_append {a : Text} (ha : a.getLast? ≠ some c) (s : Text) :
    runs c (a ++ s) = runs c a ++ runs c s := by
  induction a using runInduction c with
  | nil => rfl
  | char d a hd ih =>
      rw [List.cons_append, runs_cons hd, runs_cons hd]
      apply ih
      intro hlast
      rw [List.getLast?_cons, hlast] at ha
      exact ha rfl
  | run n a hn hhead ih =>
      have hne : a ≠ [] := by
        rintro rfl
        apply ha
        rw [List.append_nil, List.getLast?_replicate, if_neg hn]
      have hlast : a.getLast? ≠ some c := by
        rwa [List.getLast?_append, List.getLast?_eq_some_getLast hne, Option.some_or,
          ← List.getLast?_eq_some_getLast hne] at ha
      have hhead' : (a ++ s).head? ≠ some c := by
        rwa [List.head?_append, List.head?_eq_some_head hne, Option.some_or,
          ← List.head?_eq_some_head hne]
      rw [List.append_assoc, runs_run hn hhead', runs_run hn hhead, ih hlast, List.cons_append]

theorem runs_of_not_mem {s : Text} (hs : c ∉ s) : runs c s = [] := by
  induction s with
  | nil => rfl
  | cons d s ih =>
      rw [List.mem_cons, not_or] at hs
      rw [runs_cons (Ne.symm hs.1), ih hs.2]

/-- A run of `n` times `c` stands whole in a text. -/
def HasRun (c : Char) (n : Nat) (s : Text) : Prop :=
  ∃ a b, s = a ++ List.replicate n c ++ b ∧ a.getLast? ≠ some c ∧ b.head? ≠ some c

theorem hasRun_iff_mem_runs {n : Nat} (hn : n ≠ 0) {s : Text} :
    HasRun c n s ↔ n ∈ runs c s := by
  constructor
  · rintro ⟨a, b, rfl, ha, hb⟩
    rw [List.append_assoc, runs_append ha, runs_run hn hb]
    simp
  · intro h
    induction s using runInduction c with
    | nil => simp at h
    | char d s hd ih =>
        rw [runs_cons hd] at h
        obtain ⟨a, b, rfl, ha, hb⟩ := ih h
        refine ⟨d :: a, b, rfl, ?_, hb⟩
        cases a with
        | nil => simpa using hd
        | cons e a => rwa [List.getLast?_cons_cons]
    | run m s hm hs ih =>
        rw [runs_run hm hs, List.mem_cons] at h
        rcases h with rfl | h
        · exact ⟨[], s, rfl, by simp, hs⟩
        · obtain ⟨a, b, rfl, ha, hb⟩ := ih h
          refine ⟨List.replicate m c ++ a, b, by simp, ?_, hb⟩
          have hne : a ≠ [] := by
            rintro rfl
            obtain ⟨k, rfl⟩ := Nat.exists_eq_succ_of_ne_zero hn
            exact hs rfl
          rwa [List.getLast?_append, List.getLast?_eq_some_getLast hne, Option.some_or,
            ← List.getLast?_eq_some_getLast hne]

end Text

end Tidymark
