import Tidymark.Proofs.Batch.Tasks
import Tidymark.Proofs.Render.Renderable

/-!
# Batches in any order

The tasks of a batch take turns on the same files.  Each of them writes at the
two locations of its own file, so what one task has come to survives the turns
of the others, and in whatever order they run the batch ends alike.
-/

namespace Tidymark

namespace Batch

open FileTree

/-- The files of a batch are distinct, they have names, and none stands where the copy of another
is kept. -/
structure Apart (files : List SourceFile) : Prop where
  distinct : (files.map (·.location)).Nodup
  named : ∀ f ∈ files, f.location ≠ []
  copies : ∀ f ∈ files, ∀ g ∈ files, f ≠ g → f.location ≠ backupLocation g.location

variable {c : Config} {mode : Mode} {backup : Bool} {root : FileTree} {p : Progress}

theorem Apart.location_ne {files : List SourceFile} (h : Apart files) {i j : Nat} {f g : SourceFile}
    (hi : files[i]? = some f) (hj : files[j]? = some g) (hne : i ≠ j) :
    f.location ≠ g.location := by
  intro heq
  obtain ⟨hlt, rfl⟩ := List.getElem?_eq_some_iff.mp hi
  apply hne
  apply (List.getElem?_inj (i := i) (j := j) (by simpa using hlt) h.distinct).mp
  rw [List.getElem?_map, List.getElem?_map, hi, hj, Option.map_some, Option.map_some, heq]

theorem Apart.ne_backupLocation {files : List SourceFile} (h : Apart files) {f g : SourceFile}
    (hf : f ∈ files) (hg : g ∈ files) : f.location ≠ backupLocation g.location := by
  by_cases hsame : f = g
  · subst hsame
    exact ne_backupLocation_self (h.named f hf)
  · exact h.copies f hf g hg hsame

/-! ## What a batch keeps -/

namespace Progress

def files (p : Progress) : List SourceFile := p.tasks.map (·.1)

theorem files_start (root : FileTree) (files : List SourceFile) :
    (start root files).files = files := by
  rw [Progress.files, start, List.map_map]
  exact List.map_id files

/-- What is so at every point of a batch. -/
structure Sound (c : Config) (mode : Mode) (backup : Bool) (root : FileTree) (p : Progress) :
    Prop where
  holds : ∀ {i : Nat} {f : SourceFile} {stage : Stage},
    p.tasks[i]? = some (f, stage) → Holds c mode backup root p.root f stage
  elsewhere : ∀ l, (∀ f ∈ p.files, l ≠ f.location ∧ l ≠ backupLocation f.location) →
    p.root.entryAt? l = root.entryAt? l
  directories : SameDirectories root p.root

theorem sound_start (c : Config) (mode : Mode) (backup : Bool) (root : FileTree)
    (files : List SourceFile) : (start root files).Sound c mode backup root where
  holds := by
    intro i f stage h
    rw [start, List.getElem?_map, Option.map_eq_some_iff] at h
    obtain ⟨f', -, heq⟩ := h
    obtain ⟨rfl, rfl⟩ := Prod.mk.inj heq
    exact .waiting ⟨rfl, rfl⟩
  elsewhere := fun l _ => rfl
  directories := fun l => Iff.rfl

theorem turn_of_none {i : Nat} (h : p.tasks[i]? = none) : p.turn c mode backup i = p := by
  rw [turn, h]

theorem turn_of_some {i : Nat} {f : SourceFile} {stage : Stage}
    (h : p.tasks[i]? = some (f, stage)) :
    p.turn c mode backup i =
      ⟨(advance c mode backup p.root f stage).2,
        p.tasks.set i (f, (advance c mode backup p.root f stage).1)⟩ := by
  rw [turn, h]

theorem files_turn (c : Config) (mode : Mode) (backup : Bool) (p : Progress) (i : Nat) :
    (p.turn c mode backup i).files = p.files := by
  cases h : p.tasks[i]? with
  | none => rw [turn_of_none h]
  | some task =>
      rw [turn_of_some h, files, files, List.map_set]
      obtain ⟨hlt, rfl⟩ := List.getElem?_eq_some_iff.mp h
      have hmap : i < (p.tasks.map (·.1)).length := by simpa using hlt
      have hself := List.set_getElem_self hmap
      rwa [List.getElem_map] at hself

/-- A turn keeps what is so of a batch: what the task writes is nothing to the others. -/
theorem Sound.turn (h : p.Sound c mode backup root) (hapart : Apart p.files)
    (i : Nat) : (p.turn c mode backup i).Sound c mode backup root := by
  have hfiles := files_turn c mode backup p i
  cases hi : p.tasks[i]? with
  | none =>
      rw [turn_of_none hi]
      exact h
  | some task =>
      obtain ⟨f, stage⟩ := task
      have hfile {j : Nat} {g : SourceFile} {stage : Stage} (hj : p.tasks[j]? = some (g, stage)) :
          p.files[j]? = some g := by
        rw [files, List.getElem?_map, hj, Option.map_some]
      have hf := List.mem_of_getElem? (hfile hi)
      have hown := hapart.ne_backupLocation hf hf
      obtain ⟨hholds, hmoves⟩ := holds_advance hown h.directories (h.holds hi)
      rw [turn_of_some hi] at hfiles ⊢
      constructor
      · intro j g stage' hj
        rw [List.getElem?_set] at hj
        split at hj
        · next heq =>
            split at hj
            · cases hj
              exact hholds
            · cases hj
        · next hne =>
            have hg := List.mem_of_getElem? (hfile hj)
            apply (h.holds hj).congr
            · apply hmoves.entryAt?_eq
              · exact (hapart.location_ne (hfile hi) (hfile hj) hne).symm
              · exact hapart.ne_backupLocation hg hf
            · apply hmoves.entryAt?_eq
              · exact (hapart.ne_backupLocation hf hg).symm
              · intro hsame
                apply hapart.location_ne (hfile hi) (hfile hj) hne
                exact (backupLocation_injective hsame).symm
      · intro l hl
        rw [hfiles] at hl
        rw [← h.elsewhere l hl]
        exact hmoves.entryAt?_eq (hl f hf).1 (hl f hf).2
      · exact hmoves.sameDirectories h.directories

/-- What is so of a batch stays so in any order of its tasks. -/
theorem Sound.run (h : p.Sound c mode backup root) (hapart : Apart p.files)
    (schedule : List Nat) : (p.run c mode backup schedule).Sound c mode backup root := by
  induction schedule generalizing p with
  | nil => exact h
  | cons i schedule ih =>
      apply ih (h.turn hapart i)
      rw [files_turn]
      exact hapart

theorem files_run (c : Config) (mode : Mode) (backup : Bool) (p : Progress)
    (schedule : List Nat) :
    (p.run c mode backup schedule).files = p.files := by
  induction schedule generalizing p with
  | nil => rfl
  | cons i schedule ih => exact (ih _).trans (files_turn c mode backup p i)

/-! ## When a batch is done -/

def turnsLeft (p : Progress) (i : Nat) : Nat := (p.tasks[i]?).elim 0 (·.2.turnsLeft)

end Progress

theorem turnsLeft_advance (now : FileTree) (f : SourceFile) (stage : Stage) :
    (advance c mode backup now f stage).1.turnsLeft ≤ stage.turnsLeft - 1 := by
  cases stage with
  | waiting =>
      rw [advance]
      split
      · rw [stageOf]
        split
        · exact Nat.zero_le _
        · split
          · split
            · exact Nat.le_refl 2
            · exact Nat.le_succ 1
          · exact Nat.zero_le _
      · exact Nat.zero_le _
  | copying bytes o =>
      rw [advance]
      split
      · exact Nat.le_refl 1
      · exact Nat.zero_le _
  | writing o =>
      rw [advance]
      split
      · exact Nat.le_refl 0
      · exact Nat.le_refl 0
  | done outcome => exact Nat.le_refl 0

namespace Progress

theorem turnsLeft_turn (c : Config) (mode : Mode) (backup : Bool) (p : Progress) (i j : Nat) :
    (p.turn c mode backup i).turnsLeft j ≤ p.turnsLeft j - if i = j then 1 else 0 := by
  cases hi : p.tasks[i]? with
  | none =>
      rw [turn_of_none hi]
      split
      · next heq => simp [turnsLeft, ← heq, hi]
      · exact Nat.le_refl _
  | some task =>
      rw [turn_of_some hi, turnsLeft, turnsLeft, List.getElem?_set]
      split
      · next heq =>
          subst heq
          rw [hi, if_pos (List.getElem?_eq_some_iff.mp hi).1]
          exact turnsLeft_advance _ _ _
      · exact Nat.le_refl _

theorem turnsLeft_run (c : Config) (mode : Mode) (backup : Bool) (p : Progress)
    (schedule : List Nat) (i : Nat) :
    (p.run c mode backup schedule).turnsLeft i ≤ p.turnsLeft i - schedule.count i := by
  induction schedule generalizing p with
  | nil => exact Nat.le_refl _
  | cons j schedule ih =>
      have hrest := ih (p.turn c mode backup j)
      have hturn := turnsLeft_turn c mode backup p j i
      have hcount : (j :: schedule).count i = schedule.count i + if j = i then 1 else 0 := by
        rw [List.count_cons]
        simp
      rw [hcount]
      exact Nat.le_trans hrest (by omega)

/-- The results are there when every task is done, in the order of the files. -/
theorem results?_eq_some_iff {results : List FileResult} :
    p.results? = some results ↔ p.tasks = results.map fun r => (r.file, .done r.outcome) := by
  rw [results?]
  induction p.tasks generalizing results with
  | nil =>
      cases results with
      | nil => exact ⟨fun _ => rfl, fun _ => rfl⟩
      | cons r rest =>
          constructor
          · intro h; cases h
          · intro h; cases h
  | cons task tasks ih =>
      obtain ⟨f, stage⟩ := task
      rw [List.mapM_cons, Option.bind_eq_bind, Option.bind_eq_some_iff]
      constructor
      · rintro ⟨r, hr, hrest⟩
        rw [Option.bind_eq_bind, Option.bind_eq_some_iff] at hrest
        obtain ⟨rest, hrest, heq⟩ := hrest
        cases heq
        cases stage with
        | done outcome =>
            cases hr
            rw [List.map_cons, ih.mp hrest]
        | waiting => cases hr
        | copying bytes o => cases hr
        | writing o => cases hr
      · intro h
        cases results with
        | nil => cases h
        | cons r rest =>
            obtain ⟨htask, htasks⟩ := List.cons.inj h
            obtain ⟨rfl, rfl⟩ := Prod.mk.inj htask
            refine ⟨r, rfl, ?_⟩
            rw [ih.mpr htasks]
            rfl

theorem isSome_results? (h : ∀ task ∈ p.tasks, ∃ outcome, task.2 = .done outcome) :
    p.results?.isSome = true := by
  rw [Option.isSome_iff_exists]
  simp only [results?_eq_some_iff]
  revert h
  induction p.tasks with
  | nil => exact fun _ => ⟨[], rfl⟩
  | cons task tasks ih =>
      intro h
      obtain ⟨f, stage⟩ := task
      obtain ⟨outcome, rfl⟩ := h _ List.mem_cons_self
      obtain ⟨results, rfl⟩ := ih fun task htask => h task (List.mem_cons_of_mem _ htask)
      exact ⟨⟨f, outcome⟩ :: results, rfl⟩

theorem exists_done_of_turnsLeft {stage : Stage} (h : stage.turnsLeft = 0) :
    ∃ outcome, stage = .done outcome := by
  cases stage with
  | done outcome => exact ⟨outcome, rfl⟩
  | waiting => cases h
  | copying bytes o => cases h
  | writing o => cases h

theorem turnsLeft_start_le (root : FileTree) (files : List SourceFile) (i : Nat) :
    (start root files).turnsLeft i ≤ 3 := by
  rw [turnsLeft, start, List.getElem?_map]
  cases files[i]? with
  | none => exact Nat.zero_le _
  | some f => exact Nat.le_refl _

/-- Every task is done after three turns. -/
theorem isSome_results?_run (root : FileTree) (files : List SourceFile) {schedule : List Nat}
    (hturns : ∀ i < files.length, 3 ≤ schedule.count i) :
    ((start root files).run c mode backup schedule).results?.isSome = true := by
  apply isSome_results?
  intro task htask
  obtain ⟨i, hi⟩ := List.getElem?_of_mem htask
  have hlt : i < files.length := by
    have hlength := congrArg List.length (files_run c mode backup (start root files) schedule)
    rw [files_start, Progress.files, List.length_map] at hlength
    rw [← hlength]
    exact (List.getElem?_eq_some_iff.mp hi).1
  have hrun := turnsLeft_run c mode backup (start root files) schedule i
  have hstart := turnsLeft_start_le root files i
  have hcount := hturns i hlt
  apply exists_done_of_turnsLeft
  rw [turnsLeft, hi, Option.elim_some] at hrun
  omega

/-! ## How a batch ends -/

/-- What a batch comes to: a result for each file, and what each task writes in its place. -/
structure Settled (c : Config) (mode : Mode) (backup : Bool) (root : FileTree)
    (files : List SourceFile) (results : List FileResult) (after : FileTree) : Prop where
  results_eq : results = files.map (resultIn c mode backup root)
  written : ∀ f ∈ files, ∀ l content, Writes c mode backup root f l content →
    after.content? l = some content
  kept : ∀ l, (∀ f ∈ files, ∀ content, ¬ Writes c mode backup root f l content) →
    after.entryAt? l = root.entryAt? l

theorem Sound.settled (h : p.Sound c mode backup root) {results : List FileResult}
    (hresults : p.results? = some results) :
    Settled c mode backup root p.files results p.root := by
  rw [results?_eq_some_iff] at hresults
  have hfiles : p.files = results.map (·.file) := by
    rw [files, hresults, List.map_map]
    rfl
  have hdone : ∀ r ∈ results, Holds c mode backup root p.root r.file (.done r.outcome) := by
    intro r hr
    obtain ⟨i, hi⟩ := List.getElem?_of_mem hr
    apply h.holds (i := i)
    rw [hresults, List.getElem?_map, hi, Option.map_some]
  have hfile : ∀ f ∈ p.files, ∃ outcome, Holds c mode backup root p.root f (.done outcome) := by
    intro f hf
    rw [hfiles] at hf
    obtain ⟨r, hr, rfl⟩ := List.mem_map.mp hf
    exact ⟨r.outcome, hdone r hr⟩
  constructor
  · rw [hfiles, List.map_map]
    calc
      results = results.map id := (List.map_id results).symm
      _ = results.map (resultIn c mode backup root ∘ (·.file)) := by
        apply List.map_congr_left
        intro r hr
        exact (hdone r hr).result_eq
  · intro f hf l content hwrites
    obtain ⟨outcome, hholds⟩ := hfile f hf
    exact hholds.content_of_writes hwrites
  · intro l hl
    by_cases hown : ∃ f ∈ p.files, l = f.location ∨ l = backupLocation f.location
    · obtain ⟨f, hf, hown⟩ := hown
      obtain ⟨outcome, hholds⟩ := hfile f hf
      exact hholds.entryAt?_of_not_writes hown (hl f hf)
    · apply h.elsewhere
      intro f hf
      rw [← not_or]
      exact fun hcase => hown ⟨f, hf, hcase⟩

/-! ## One task after the other -/

theorem run_append (p : Progress) (first second : List Nat) :
    p.run c mode backup (first ++ second) =
      (p.run c mode backup first).run c mode backup second :=
  List.foldl_append

theorem run_three (c : Config) (mode : Mode) (backup : Bool) (now : FileTree)
    (finished waiting : List (SourceFile × Stage)) (f : SourceFile) :
    let (result, after) := formatFile c mode backup now f
    Progress.run c mode backup ⟨now, finished ++ (f, .waiting) :: waiting⟩
        (List.replicate 3 finished.length) =
      ⟨after, finished ++ (f, .done result.outcome) :: waiting⟩ := by
  have hturn (now : FileTree) (stage : Stage) :
      Progress.turn c mode backup ⟨now, finished ++ (f, stage) :: waiting⟩ finished.length =
        ⟨(advance c mode backup now f stage).2,
          finished ++ (f, (advance c mode backup now f stage).1) :: waiting⟩ := by
    have htask : (finished ++ (f, stage) :: waiting)[finished.length]? = some (f, stage) := by simp
    rw [turn_of_some htask]
    simp
  have hthree := advance_three c mode backup now f
  simp only at hthree ⊢
  rw [List.replicate_succ, List.replicate_succ, List.replicate_succ, List.replicate_zero]
  simp only [Progress.run, List.foldl_cons, List.foldl_nil, hturn]
  rw [hthree]

theorem inOrderFrom_succ (first count : Nat) :
    inOrderFrom first (count + 1) = List.replicate 3 first ++ inOrderFrom (first + 1) count := by
  rw [inOrderFrom, List.range'_succ, List.flatMap_cons]
  rfl

/-- The task of a file with a result. -/
def doneTask (r : FileResult) : SourceFile × Stage := (r.file, .done r.outcome)

/-- Formatting files in order is a batch in which each task is done before the next. -/
theorem run_inOrderFrom (c : Config) (mode : Mode) (backup : Bool) (now : FileTree)
    (finished : List FileResult) (files : List SourceFile) :
    let (results, after) := formatFiles c mode backup now files
    Progress.run c mode backup ⟨now, finished.map doneTask ++ files.map (·, .waiting)⟩
        (inOrderFrom finished.length files.length) =
      ⟨after, (finished ++ results).map doneTask⟩ := by
  induction files generalizing now finished with
  | nil => simp [formatFiles, inOrderFrom, Progress.run]
  | cons f rest ih =>
      have hfile := run_three c mode backup now (finished.map doneTask) (rest.map (·, .waiting)) f
      have hrest := ih (formatFile c mode backup now f).2
        (finished ++ [(formatFile c mode backup now f).1])
      rw [List.length_map] at hfile
      rw [formatFiles, List.length_cons, inOrderFrom_succ, run_append, List.map_cons]
      simp only at hfile hrest ⊢
      rw [hfile]
      simpa [doneTask, file_formatFile] using hrest

/-- Formatting files that are apart comes to what a batch comes to in any order. -/
theorem settled_formatFiles (c : Config) (mode : Mode) (backup : Bool) (root : FileTree)
    {files : List SourceFile} (hapart : Apart files) :
    Settled c mode backup root files (formatFiles c mode backup root files).1
      (formatFiles c mode backup root files).2 := by
  have hrun : (start root files).run c mode backup (inOrderFrom 0 files.length) =
      ⟨(formatFiles c mode backup root files).2,
        (formatFiles c mode backup root files).1.map doneTask⟩ :=
    run_inOrderFrom c mode backup root [] files
  rw [← files_start root files] at hapart
  have hend := (sound_start c mode backup root files).run hapart (inOrderFrom 0 files.length)
  have hsettled := hend.settled (results?_eq_some_iff.mpr (congrArg tasks hrun))
  rwa [files_run, files_start, hrun] at hsettled

end Progress

/-- The files after a batch.  Each file that is due holds its formatted text and, if copies are
kept, its copy holds what it held before; nothing else has changed. -/
structure WroteDue (c : Config) (mode : Mode) (backup : Bool) (root : FileTree)
    (files : List SourceFile) (after : FileTree) : Prop where
  formatted : ∀ f ∈ files, ∀ bytes o, Due c mode root f bytes o →
    after.content? f.location = some (Text.encode o.formatted)
  copied : backup = true → ∀ f ∈ files, ∀ bytes o, Due c mode root f bytes o →
    after.content? (backupLocation f.location) = some bytes
  kept : ∀ l, (∀ f ∈ files, ∀ bytes o, Due c mode root f bytes o →
      l ≠ f.location ∧ (backup = true → l ≠ backupLocation f.location)) →
    after.entryAt? l = root.entryAt? l

/-- If no directory stands in the way of a copy, each result tells what its file held. -/
theorem Progress.Settled.of_free {files : List SourceFile} {results : List FileResult}
    {after : FileTree} (h : Progress.Settled c mode backup root files results after)
    (hfree : backup = true → ∀ f ∈ files,
      root.entryAt? (backupLocation f.location) ≠ some .directory) :
    results = files.map (fun f => resultOf c (readFile root f.location) f) ∧
      WroteDue c mode backup root files after := by
  have hblocked : ∀ f ∈ files, ¬ Blocked backup root f := by
    intro f hf hblocked
    exact hfree hblocked.1 f hf hblocked.2
  constructor
  · rw [h.results_eq]
    apply List.map_congr_left
    intro f hf
    rw [resultIn, if_neg fun hcase => hblocked f hf hcase.2.2]
  · constructor
    · intro f hf bytes o hdue
      exact h.written f hf _ _ (.original hdue (hblocked f hf))
    · intro hbackup f hf bytes o hdue
      exact h.written f hf _ _ (.copy hdue (hblocked f hf) hbackup)
    · intro l hl
      apply h.kept
      intro f hf content hwrites
      cases hwrites with
      | original hdue hnot => exact (hl f hf _ _ hdue).1 rfl
      | copy hdue hnot hbackup => exact (hl f hf _ _ hdue).2 hbackup rfl

/-- **A batch is independent for each file.**  In whatever order the tasks take turns, three turns
of each are enough; then the results are those that the files come to one by one, in their order,
and the files have changed only where a due file and its copy are.  Formatting the files one after
the other is one such order. -/
theorem independent_in_any_order (c : Config) (mode : Mode) (backup : Bool) (root : FileTree)
    (files : List SourceFile) (hapart : Apart files)
    (hfree : backup = true → ∀ f ∈ files,
      root.entryAt? (backupLocation f.location) ≠ some .directory) :
    (∀ schedule : List Nat, (∀ i < files.length, 3 ≤ schedule.count i) →
      ((Progress.start root files).run c mode backup schedule).results?.isSome = true) ∧
    (∀ (schedule : List Nat) (results : List FileResult),
      ((Progress.start root files).run c mode backup schedule).results? = some results →
      results = files.map (fun f => resultOf c (readFile root f.location) f) ∧
      WroteDue c mode backup root files
        ((Progress.start root files).run c mode backup schedule).root) ∧
    (formatFiles c mode backup root files).1 =
      files.map (fun f => resultOf c (readFile root f.location) f) ∧
    WroteDue c mode backup root files (formatFiles c mode backup root files).2 := by
  refine ⟨fun schedule => Progress.isSome_results?_run root files, ?_,
    (Progress.settled_formatFiles c mode backup root hapart).of_free hfree⟩
  intro schedule results hresults
  have hsound := Progress.sound_start c mode backup root files
  have hend := hsound.run (by rwa [Progress.files_start]) schedule
  have hsettled := hend.settled hresults
  rw [Progress.files_run, Progress.files_start] at hsettled
  exact hsettled.of_free hfree

/-- A file that is no text, one to be formatted, and one that is formatted, in mixed turns. -/
theorem independent_in_any_order_mixed :
    let bytes (s : String) := Text.encode s.toList
    let root : FileTree := .directory
      [("a.md".toList, .file (bytes "* x\n")), ("b.md".toList, .file (bytes "- y\n")),
        ("c.md".toList, .file [0xFF])]
    let files : List SourceFile :=
      [⟨"c.md".toList, ["c.md".toList], 1⟩, ⟨"a.md".toList, ["a.md".toList], 4⟩,
        ⟨"b.md".toList, ["b.md".toList], 4⟩]
    let p := (Progress.start root files).run {} .write true [1, 0, 1, 2, 0, 2, 1, 2, 0]
    p.results?.isSome = true ∧ p.root.content? ["a.md".toList] = some (bytes "- x\n") ∧
      p.root.content? ["a.md.backup".toList] = some (bytes "* x\n") := by
  intro bytes root files
  have hapart : Apart files := ⟨by decide, by decide, by decide⟩
  have hfree : true = true → ∀ f ∈ files,
      root.entryAt? (backupLocation f.location) ≠ some .directory := by decide
  obtain ⟨hdone, hany, -⟩ := independent_in_any_order {} .write true root files hapart hfree
  have hformatted : outcomeOf {} (bytes "* x\n") = .ok ⟨"* x\n".toList, "- x\n".toList⟩ :=
    ok_of_toOption (by decide +kernel)
  have hdue : Due {} .write root ⟨"a.md".toList, ["a.md".toList], 4⟩ (bytes "* x\n")
      ⟨"* x\n".toList, "- x\n".toList⟩ := ⟨rfl, by decide, hformatted, by decide⟩
  have hmem : ⟨"a.md".toList, ["a.md".toList], 4⟩ ∈ files := by decide
  have hsome := hdone [1, 0, 1, 2, 0, 2, 1, 2, 0] (by decide)
  obtain ⟨results, hresults⟩ := Option.isSome_iff_exists.mp hsome
  obtain ⟨-, hwrote⟩ := hany _ results hresults
  exact ⟨hsome, hwrote.formatted _ hmem _ _ hdue, hwrote.copied rfl _ hmem _ _ hdue⟩

end Batch

end Tidymark
