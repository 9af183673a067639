import Mathlib.Data.List.Basic
import Tidymark.Command
import Tidymark.Proofs.Batch.Schedules
import Tidymark.Proofs.Discovery.Files

/-!
# Modes of the command

Commands that differ in their mode only concern the same files.  One mode
reports them, one lists them, one shows what would change, and one changes
them, unless a directory stands where the copy of a file is to be kept.
-/

namespace Tidymark

namespace Command

open Batch FileTree

/-- Arguments that differ in their mode only. -/
structure Alike (a b : Arguments) : Prop where
  config : b.config = a.config
  paths : b.paths = a.paths
  has : ∀ s, s ∉ Switch.modes → b.has s = a.has s

theorem alike_cons (a : Arguments) {m : Switch} (hm : m ∈ Switch.modes) :
    Alike a { a with switches := m :: a.switches } where
  config := rfl
  paths := rfl
  has s hs := by
    have hne : s ≠ m := fun heq => hs (heq ▸ hm)
    rw [Arguments.has, Arguments.has, List.contains_cons, beq_eq_false_iff_ne.mpr hne,
      Bool.false_or]

/-- What formatting comes to for a file that it changes. -/
def change? (c : Config) (root : FileTree) (f : SourceFile) : Option (SourceFile × FileOutcome) :=
  match (resultOf c (readFile root f.location) f).outcome with
  | .ok o => if o.changed then some (f, o) else none
  | .error _ => none

/-- The files that are formatted and that formatting changes, with their texts. -/
def concerned (c : Config) (root : FileTree) (found : List SourceFile) :
    List (SourceFile × FileOutcome) :=
  found.filterMap (change? c root)

/-- A file cannot be formatted, or it cannot be written for want of a place for its copy. -/
def Fails (c : Config) (mode : Mode) (backup : Bool) (root : FileTree) (f : SourceFile) : Prop :=
  (∃ e, (resultOf c (readFile root f.location) f).outcome = .error e) ∨
    mode = .write ∧ (change? c root f).isSome = true ∧ Blocked backup root f

/-- How a command in a mode ends, told from the files that are concerned. -/
structure Agrees (c : Config) (root : FileTree) (found : List SourceFile) (quiet backup : Bool)
    (mode : Mode) (out : Outcome) : Prop where
  checks : mode = .check → out.printed =
    if quiet then []
    else (concerned c root found).flatMap fun x => "would reformat ".toList ++ x.1.path ++ ['\n']
  lists : mode = .list → out.printed =
    (concerned c root found).flatMap fun x => x.1.path ++ ['\n']
  diffs : mode = .diff → out.printed =
    (concerned c root found).flatMap fun x =>
      "--- ".toList ++ x.1.path ++ "\n+++ ".toList ++ x.1.path ++
        '\n' :: Diff.render x.2.source x.2.formatted
  writes : mode = .write → out.printed =
    if quiet then []
    else ((concerned c root found).filter fun x => ¬ Blocked backup root x.1).flatMap fun x =>
      "Formatted: ".toList ++ x.1.path ++ ['\n']
  overwritten : mode = .write → ∀ x ∈ concerned c root found, ¬ Blocked backup root x.1 →
    out.files.content? x.1.location = some (Text.encode x.2.formatted)
  spared : mode = .write → ∀ f ∈ found,
    (∀ o, (f, o) ∈ concerned c root found → Blocked backup root f) →
    out.files.entryAt? f.location = root.entryAt? f.location
  elsewhere : mode = .write → ∀ l, (∀ x ∈ concerned c root found, ¬ Blocked backup root x.1 →
      l ≠ x.1.location ∧ (backup = true → l ≠ backupLocation x.1.location)) →
    out.files.entryAt? l = root.entryAt? l
  unchanged : mode ≠ .write → out.files = root
  failed : (∃ f ∈ found, Fails c mode backup root f) → out.status = 2
  passed : (¬ ∃ f ∈ found, Fails c mode backup root f) →
    out.status = if mode = .check ∧ concerned c root found ≠ [] then 1 else 0

variable {c : Config} {mode : Mode} {quiet backup : Bool} {root : FileTree}
  {found : List SourceFile} {f : SourceFile} {o : FileOutcome}

/-! ## What becomes of a file -/

/-- The result of a file, by whether formatting changes it. -/
inductive Ends (c : Config) (mode : Mode) (backup : Bool) (root : FileTree) (f : SourceFile) :
    FileResult → Prop
  | changed {o : FileOutcome} (hchange : change? c root f = some (f, o))
      (hfree : ¬ (mode = .write ∧ Blocked backup root f)) : Ends c mode backup root f ⟨f, .ok o⟩
  | refused {o : FileOutcome} (hchange : change? c root f = some (f, o)) (hwrite : mode = .write)
      (hblocked : Blocked backup root f) : Ends c mode backup root f ⟨f, .error .isDirectory⟩
  | same {o : FileOutcome} (hchange : change? c root f = none) (hsame : o.changed = false)
      (hresult : resultOf c (readFile root f.location) f = ⟨f, .ok o⟩) :
      Ends c mode backup root f ⟨f, .ok o⟩
  | failed {e : Failure} (hchange : change? c root f = none)
      (hresult : resultOf c (readFile root f.location) f = ⟨f, .error e⟩) :
      Ends c mode backup root f ⟨f, .error e⟩

theorem change?_eq_some_iff {x : SourceFile × FileOutcome} :
    change? c root f = some x ↔
      x.1 = f ∧ x.2.changed = true ∧
        resultOf c (readFile root f.location) f = ⟨f, .ok x.2⟩ := by
  rw [change?, resultOf]
  cases readFile root f.location >>= outcomeOf c with
  | error e => simp
  | ok o =>
      cases hchanged : o.changed with
      | false =>
          constructor
          · intro h; simp [hchanged] at h
          · rintro ⟨-, hx, heq⟩
            cases heq
            rw [hchanged] at hx
            cases hx
      | true =>
          constructor
          · intro h
            simp only [hchanged, if_true, Option.some.injEq] at h
            subst h
            exact ⟨rfl, hchanged, rfl⟩
          · rintro ⟨hfile, -, heq⟩
            cases heq
            simp [hchanged, ← hfile]

theorem ends_resultIn (c : Config) (mode : Mode) (backup : Bool) (root : FileTree)
    (f : SourceFile) : Ends c mode backup root f (resultIn c mode backup root f) := by
  obtain ⟨outcome, hresult⟩ : ∃ outcome, resultOf c (readFile root f.location) f = ⟨f, outcome⟩ :=
    ⟨_, rfl⟩
  rw [resultIn, hresult]
  cases outcome with
  | error e =>
      rw [if_neg (by simp [FileResult.changed])]
      exact .failed (by rw [change?, hresult]) hresult
  | ok o =>
      cases hchanged : o.changed with
      | false =>
          rw [if_neg (by simp [FileResult.changed, hchanged])]
          exact .same (by simp [change?, hresult, hchanged]) hchanged hresult
      | true =>
          have hchange : change? c root f = some (f, o) :=
            change?_eq_some_iff.mpr ⟨rfl, hchanged, hresult⟩
          by_cases hrefused : mode = .write ∧ Blocked backup root f
          · rw [if_pos ⟨hrefused.1, hchanged, hrefused.2⟩]
            exact .refused hchange hrefused.1 hrefused.2
          · rw [if_neg fun hcase => hrefused ⟨hcase.1, hcase.2.2⟩]
            exact .changed hchange hrefused

theorem mem_concerned_iff {x : SourceFile × FileOutcome} :
    x ∈ concerned c root found ↔ x.1 ∈ found ∧ change? c root x.1 = some x := by
  rw [concerned, List.mem_filterMap]
  constructor
  · rintro ⟨f, hf, hchange⟩
    have hfile := (change?_eq_some_iff.mp hchange).1
    subst hfile
    exact ⟨hf, hchange⟩
  · exact fun ⟨hf, hchange⟩ => ⟨x.1, hf, hchange⟩

/-- In write mode exactly the files that formatting changes are due. -/
theorem exists_due_iff (hmode : mode = .write) :
    (∃ bytes, Due c mode root f bytes o) ↔ change? c root f = some (f, o) := by
  rw [change?_eq_some_iff]
  constructor
  · rintro ⟨bytes, hdue⟩
    exact ⟨rfl, hdue.changed, hdue.resultOf_eq⟩
  · rintro ⟨-, hchanged, hresult⟩
    have hchanged' : (resultOf c (readFile root f.location) f).changed = true := by
      rw [hresult]
      exact hchanged
    obtain ⟨bytes, o', hdue⟩ := exists_due hmode hchanged'
    have hsame := hdue.resultOf_eq.symm.trans hresult
    cases hsame
    exact ⟨bytes, hdue⟩

/-! ## What is printed -/

def report (mode : Mode) (quiet backup : Bool) (root : FileTree) (x : SourceFile × FileOutcome) :
    Text :=
  if mode = .write ∧ Blocked backup root x.1 then [] else printedFor mode quiet x.1.path x.2

theorem printed_resultIn (hmode : mode ≠ .stdout) :
    printed mode quiet (resultIn c mode backup root f) =
      (change? c root f).elim [] (report mode quiet backup root) := by
  have hends := ends_resultIn c mode backup root f
  generalize resultIn c mode backup root f = r at hends
  cases hends with
  | changed hchange hfree => rw [hchange, Option.elim_some, report, if_neg hfree, printed]
  | refused hchange hwrite hblocked =>
      rw [hchange, Option.elim_some, report, if_pos ⟨hwrite, hblocked⟩, printed]
  | same hchange hsame hresult =>
      rw [hchange, Option.elim_none, printed]
      cases mode with
      | stdout => exact absurd rfl hmode
      | write => simp [printedFor, hsame]
      | check => simp [printedFor, hsame]
      | list => simp [printedFor, hsame]
      | diff => simp [printedFor, hsame]
  | failed hchange hresult => rw [hchange, Option.elim_none, printed]

/-- What a command prints is what it prints for the concerned files, in order. -/
theorem flatMap_printed (hmode : mode ≠ .stdout) :
    (found.map (resultIn c mode backup root)).flatMap (printed mode quiet) =
      (concerned c root found).flatMap (report mode quiet backup root) := by
  rw [List.flatMap_map, concerned]
  induction found with
  | nil => rfl
  | cons f rest ih =>
      rw [List.flatMap_cons, ih, printed_resultIn hmode, List.filterMap_cons]
      cases change? c root f with
      | none => rfl
      | some x => rfl

theorem changed_of_mem_concerned {x : SourceFile × FileOutcome}
    (hx : x ∈ concerned c root found) : x.2.changed = true :=
  (change?_eq_some_iff.mp (mem_concerned_iff.mp hx).2).2.1

/-- Only writing is refused; otherwise what is printed for changed files is settled by the mode. -/
theorem flatMap_report_eq {g : SourceFile × FileOutcome → Text} (hmode : mode ≠ .write)
    (hg : ∀ x, x.2.changed = true → printedFor mode quiet x.1.path x.2 = g x) :
    (concerned c root found).flatMap (report mode quiet backup root) =
      (concerned c root found).flatMap g := by
  apply List.flatMap_congr
  intro x hx
  rw [report, if_neg fun hcase => hmode hcase.1]
  exact hg x (changed_of_mem_concerned hx)

theorem flatMap_report_check :
    (concerned c root found).flatMap (report .check quiet backup root) =
      if quiet then []
      else (concerned c root found).flatMap fun x =>
        "would reformat ".toList ++ x.1.path ++ ['\n'] := by
  cases quiet with
  | true => simp [report, printedFor]
  | false =>
      rw [if_neg Bool.false_ne_true]
      exact flatMap_report_eq (by simp) fun x hx => by simp [printedFor, hx]

theorem flatMap_report_list :
    (concerned c root found).flatMap (report .list quiet backup root) =
      (concerned c root found).flatMap fun x => x.1.path ++ ['\n'] :=
  flatMap_report_eq (by simp) fun x hx => by simp [printedFor, hx]

theorem flatMap_report_diff :
    (concerned c root found).flatMap (report .diff quiet backup root) =
      (concerned c root found).flatMap fun x =>
        "--- ".toList ++ x.1.path ++ "\n+++ ".toList ++ x.1.path ++
          '\n' :: Diff.render x.2.source x.2.formatted :=
  flatMap_report_eq (by simp) fun x hx => by simp [printedFor, hx]

theorem flatMap_report_write :
    (concerned c root found).flatMap (report .write quiet backup root) =
      if quiet then []
      else ((concerned c root found).filter fun x => ¬ Blocked backup root x.1).flatMap fun x =>
        "Formatted: ".toList ++ x.1.path ++ ['\n'] := by
  have hchanged {x : SourceFile × FileOutcome} (hx : x ∈ concerned c root found) :=
    changed_of_mem_concerned hx
  cases quiet with
  | true => simp [report, printedFor]
  | false =>
      rw [if_neg Bool.false_ne_true]
      generalize concerned c root found = xs at hchanged
      induction xs with
      | nil => rfl
      | cons x xs ih =>
          rw [List.flatMap_cons, ih fun hx => hchanged (List.mem_cons_of_mem _ hx), report]
          have hx := hchanged List.mem_cons_self
          by_cases hblocked : Blocked backup root x.1
          · simp [hblocked]
          · simp [hblocked, printedFor, hx]

/-! ## The status -/

theorem errorLine?_resultIn :
    (errorLine? (resultIn c mode backup root f)).isSome = true ↔ Fails c mode backup root f := by
  have hends := ends_resultIn c mode backup root f
  generalize resultIn c mode backup root f = r at hends
  rw [Fails]
  cases hends with
  | changed hchange hfree =>
      have hresult := (change?_eq_some_iff.mp hchange).2.2
      simp only [errorLine?, Option.isSome_none, Bool.false_eq_true, hresult, false_iff, not_or]
      refine ⟨by simp, fun hcase => hfree ⟨hcase.1, hcase.2.2⟩⟩
  | refused hchange hwrite hblocked =>
      simp [errorLine?, hchange, hwrite, hblocked]
  | same hchange hsame hresult => simp [errorLine?, hchange, hresult]
  | failed hchange hresult => simp [errorLine?, hresult]

theorem changed_resultIn (hmode : mode ≠ .write) :
    (resultIn c mode backup root f).changed = true ↔ (change? c root f).isSome = true := by
  have hends := ends_resultIn c mode backup root f
  generalize resultIn c mode backup root f = r at hends
  cases hends with
  | changed hchange hfree =>
      simp [FileResult.changed, hchange, (change?_eq_some_iff.mp hchange).2.1]
  | refused hchange hwrite hblocked => exact absurd hwrite hmode
  | same hchange hsame hresult => simp [FileResult.changed, hchange, hsame]
  | failed hchange hresult => simp [FileResult.changed, hchange]

theorem concerned_ne_nil_iff :
    concerned c root found ≠ [] ↔ ∃ f ∈ found, (change? c root f).isSome = true := by
  rw [concerned, Ne, List.filterMap_eq_nil_iff]
  simp [Option.isSome_iff_ne_none]

theorem status_of_fails (h : ∃ f ∈ found, Fails c mode backup root f) :
    status mode (found.map (resultIn c mode backup root)) = 2 := by
  obtain ⟨f, hf, hfails⟩ := h
  rw [status, if_pos]
  rw [List.any_map, List.any_eq_true]
  exact ⟨f, hf, errorLine?_resultIn.mpr hfails⟩

theorem status_of_not_fails (h : ¬ ∃ f ∈ found, Fails c mode backup root f) :
    status mode (found.map (resultIn c mode backup root)) =
      if mode = .check ∧ concerned c root found ≠ [] then 1 else 0 := by
  rw [status, if_neg]
  · have hneeded : mode = .check →
        ((found.map (resultIn c mode backup root)).any FileResult.changed = true ↔
          concerned c root found ≠ []) := by
      intro hmode
      subst hmode
      rw [List.any_map, List.any_eq_true, concerned_ne_nil_iff]
      have hcheck : Mode.check ≠ .write := by simp
      simp only [Function.comp, changed_resultIn hcheck]
    exact if_congr (and_congr_right hneeded) rfl rfl
  · rw [List.any_map, List.any_eq_true]
    rintro ⟨f, hf, hline⟩
    exact h ⟨f, hf, errorLine?_resultIn.mp hline⟩

/-! ## Runs -/

theorem apart_of_findFiles {here : Location} {paths : List Text}
    (hfind : findFiles c root here paths = .ok found)
    (hcopies : ∀ f ∈ found, ∀ g ∈ found, f ≠ g → f.location ≠ backupLocation g.location) :
    Apart found := by
  obtain ⟨-, rfl⟩ := findFiles_eq_ok_iff.mp hfind
  exact ⟨nodup_filesAt c root here paths, fun f hf => location_ne_nil_of_mem_filesAt hf, hcopies⟩

theorem eq_of_location_eq (hapart : Apart found) {f g : SourceFile} (hf : f ∈ found)
    (hg : g ∈ found) (h : f.location = g.location) : f = g := by
  obtain ⟨i, hi⟩ := List.getElem?_of_mem hf
  obtain ⟨j, hj⟩ := List.getElem?_of_mem hg
  by_cases hij : i = j
  · subst hij
    exact Option.some.inj (hi.symm.trans hj)
  · exact absurd h (hapart.location_ne hi hj hij)

theorem entryAt?_of_settled {results : List FileResult} {after : FileTree}
    (hsettled : Progress.Settled c mode backup root found results after) (hmode : mode = .write)
    {l : Location} (hl : ∀ x ∈ concerned c root found, ¬ Blocked backup root x.1 →
      l ≠ x.1.location ∧ (backup = true → l ≠ backupLocation x.1.location)) :
    after.entryAt? l = root.entryAt? l := by
  apply hsettled.kept
  intro f hf content hwrites
  cases hwrites with
  | original hdue hfree =>
      have hchange := (exists_due_iff hmode).mp ⟨_, hdue⟩
      exact (hl (f, _) (mem_concerned_iff.mpr ⟨hf, hchange⟩) hfree).1 rfl
  | copy hdue hfree hbackup =>
      have hchange := (exists_due_iff hmode).mp ⟨_, hdue⟩
      exact (hl (f, _) (mem_concerned_iff.mpr ⟨hf, hchange⟩) hfree).2 hbackup rfl

/-- What a command leaves behind that formats files which are apart. -/
theorem agrees_of_settled (quiet : Bool) (hapart : Apart found) {after : FileTree}
    (hsettled : Progress.Settled c mode backup root found
      (found.map (resultIn c mode backup root)) after)
    (hunchanged : mode ≠ .write → after = root) :
    Agrees c root found quiet backup mode
      { status := status mode (found.map (resultIn c mode backup root))
        printed := (found.map (resultIn c mode backup root)).flatMap (printed mode quiet)
        errors := (found.map (resultIn c mode backup root)).filterMap errorLine?
        files := after } where
  checks := by
    rintro rfl
    exact (flatMap_printed (by simp)).trans flatMap_report_check
  lists := by
    rintro rfl
    exact (flatMap_printed (by simp)).trans flatMap_report_list
  diffs := by
    rintro rfl
    exact (flatMap_printed (by simp)).trans flatMap_report_diff
  writes := by
    rintro rfl
    exact (flatMap_printed (by simp)).trans flatMap_report_write
  overwritten := by
    intro hmode x hx hfree
    obtain ⟨hfound, hchange⟩ := mem_concerned_iff.mp hx
    obtain ⟨bytes, hdue⟩ := (exists_due_iff hmode).mpr hchange
    exact hsettled.written x.1 hfound _ _ (.original hdue hfree)
  spared := by
    intro hmode f hf hblocked
    apply entryAt?_of_settled hsettled hmode
    intro x hx hfree
    have hfound := (mem_concerned_iff.mp hx).1
    constructor
    · intro hsame
      obtain rfl := eq_of_location_eq hapart hf hfound hsame
      exact hfree (hblocked x.2 hx)
    · exact fun _ => hapart.ne_backupLocation hf hfound
  elsewhere := fun hmode l => entryAt?_of_settled hsettled hmode
  unchanged := hunchanged
  failed := status_of_fails
  passed := status_of_not_fails

/-- **The modes of the command agree.**  Take arguments for which the settings load and files are
found, none of them in the place of the copy of another.  Then commands whose arguments differ from
these in the mode only concern the same files in the same order: those that are formatted and that
formatting changes.  They are reported, listed, shown with their changes, or overwritten; only
writing changes files, and it spares what is listed and not concerned, and a file whose copy finds a
directory in its place.  Such a file fails, as one that cannot be formatted does in every mode. -/
theorem modes_agree (root : FileTree) (here : Location) (a : Arguments) (c : Config)
    (found : List SourceFile) (hprint : a.has .printConfig = false)
    (hload : Config.load root here a.config ('/' :: Path.unsplit here) = .ok c)
    (hfind : findFiles c root here a.paths = .ok found)
    (hcopies : ∀ f ∈ found, ∀ g ∈ found, f ≠ g → f.location ≠ backupLocation g.location)
    (args : List Text) (b : Arguments) (hargs : Request.ofArguments args = .run b)
    (halike : Alike a b) :
    Agrees c root found (a.has .quiet) (a.has .backup) b.mode (execute root here args) := by
  have hapart := apart_of_findFiles hfind hcopies
  have hsettled := Progress.settled_formatFiles c b.mode (a.has .backup) root hapart
  have hquiet : b.has .quiet = a.has .quiet := halike.has .quiet (by decide)
  have hbackup : b.has .backup = a.has .backup := halike.has .backup (by decide)
  have hrun : b.has .printConfig = false := (halike.has .printConfig (by decide)).trans hprint
  have hresults := hsettled.results_eq
  have hagrees := agrees_of_settled (a.has .quiet) hapart (hresults ▸ hsettled)
    fun hmode => root_formatFiles hmode found
  rw [← hresults] at hagrees
  have hran : run root here b = .ok {
      status := status b.mode (formatFiles c b.mode (a.has .backup) root found).1
      printed := (formatFiles c b.mode (a.has .backup) root found).1.flatMap
        (printed b.mode (a.has .quiet))
      errors := (formatFiles c b.mode (a.has .backup) root found).1.filterMap errorLine?
      files := (formatFiles c b.mode (a.has .backup) root found).2 } := by
    rw [run, halike.config, hload, halike.paths, hbackup, hquiet]
    simp only [hrun, hfind, bind, Except.bind]
    rfl
  rw [execute, hargs]
  dsimp only
  rw [hran]
  exact hagrees

/-- A file to be formatted, listed and then written. -/
theorem modes_agree_list_write :
    let root : FileTree := .directory [("a.md".toList, .file (Text.encode "* x\n".toList))]
    let found : List SourceFile := [⟨"a.md".toList, ["a.md".toList], 4⟩]
    Agrees {} root found false false .list (execute root [] ["-l".toList, "a.md".toList]) ∧
      Agrees {} root found false false .write
        (execute root [] ["--write".toList, "a.md".toList]) := by
  intro root found
  have hload : Config.load root [] none ('/' :: Path.unsplit []) = .ok {} := rfl
  have hfind : findFiles {} root [] ["a.md".toList] = .ok found := rfl
  have hagree := modes_agree root [] { paths := ["a.md".toList] } {} found rfl hload hfind
    (by decide)
  constructor
  · exact hagree ["-l".toList, "a.md".toList] _ (by decide) (alike_cons _ (m := .list) (by decide))
  · exact hagree ["--write".toList, "a.md".toList] _ (by decide)
      (alike_cons _ (m := .write) (by decide))

/-- Checking reports a file, unless it is to be quiet; writing leaves it, and fails, if a directory
stands where its copy is to be kept. -/
theorem directory_spares_reported_file :
    let root : FileTree := .directory
      [("a.md".toList, .file (Text.encode "* x\n".toList)), ("a.md.backup".toList, .directory [])]
    let run (args : List String) := execute root [] (args.map String.toList)
    (run ["--check", "--backup", "a.md"]).printed = "would reformat a.md\n".toList ∧
      (run ["--check", "--backup", "a.md"]).status = 1 ∧
      (run ["--write", "--backup", "a.md"]).status = 2 ∧
      (run ["--write", "--backup", "a.md"]).files.content? ["a.md".toList] =
        some (Text.encode "* x\n".toList) ∧
      (run ["--check", "--quiet", "a.md"]).printed = [] := by
  decide +kernel

end Command

end Tidymark
