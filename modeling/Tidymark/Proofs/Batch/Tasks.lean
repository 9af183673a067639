import Tidymark.Batch.Schedule
import Tidymark.Proofs.FileTree.Entries

/-!
# What one task does

A task reads and writes at two locations only, that of its file and that of the
copy.  What it writes there, and with which outcome it is done, is settled by
what stood there before the batch.
-/

namespace Tidymark

namespace Batch

open FileTree

/-! ## Reading and writing -/

theorem readFile_eq (root : FileTree) (l : Location) :
    readFile root l =
      match root.entryAt? l with
      | some (.file bytes) => .ok bytes
      | some .directory => .error .isDirectory
      | none => .error (@Failure.unreadable .missing) := by
  rw [readFile, entryAt?]
  rcases root.at? l with _ | (_ | _) <;> rfl

theorem readFile_eq_ok_iff {root : FileTree} {l : Location} {bytes : Bytes} :
    readFile root l = .ok bytes ↔ root.content? l = some bytes := by
  rw [readFile_eq, content?_eq_some_iff]
  rcases root.entryAt? l with _ | (_ | _) <;> simp

theorem overwrite_eq (root : FileTree) (l : Location) (content : Bytes) :
    overwrite root l content =
      if root.entryAt? l = some .directory then .error .isDirectory
      else .ok (root.put l (.file content)) := by
  rw [overwrite, entryAt?]
  rcases root.at? l with _ | (_ | _) <;> rfl

theorem backupLocation_concat (dir : Location) (name : Text) :
    backupLocation (dir ++ [name]) = dir ++ [name ++ ".backup".toList] := by
  rw [backupLocation, List.getLast?_concat, List.dropLast_concat]

theorem backupLocation_injective {l k : Location} (h : backupLocation l = backupLocation k) :
    l = k := by
  rcases List.eq_nil_or_concat l with rfl | ⟨dir, name, rfl⟩
  · rcases List.eq_nil_or_concat k with rfl | ⟨dir, name, rfl⟩
    · rfl
    · rw [List.concat_eq_append, backupLocation_concat] at h
      simp [backupLocation] at h
  · rw [List.concat_eq_append, backupLocation_concat] at h
    rcases List.eq_nil_or_concat k with rfl | ⟨dir', name', rfl⟩
    · simp [backupLocation] at h
    · rw [List.concat_eq_append, backupLocation_concat] at h
      have hdir := List.append_inj_left' h rfl
      have hname := List.append_inj_right' h rfl
      rw [hdir, List.append_cancel_right (List.head_eq_of_cons_eq hname)]

theorem ne_backupLocation_self {l : Location} (h : l ≠ []) : l ≠ backupLocation l := by
  rcases List.eq_nil_or_concat l with rfl | ⟨dir, name, rfl⟩
  · exact absurd rfl h
  · rw [List.concat_eq_append, backupLocation_concat]
    intro heq
    have hname := List.head_eq_of_cons_eq (List.append_cancel_left heq)
    have hlength := congrArg List.length hname
    simp at hlength

theorem writable_backupLocation {root : FileTree} {l : Location} {content : Bytes}
    (h : root.entryAt? l = some (.file content))
    (hfree : root.entryAt? (backupLocation l) ≠ some .directory) :
    Writable root (backupLocation l) := by
  rcases List.eq_nil_or_concat l with rfl | ⟨dir, name, rfl⟩
  · exact .of_file h
  · rw [List.concat_eq_append] at h hfree ⊢
    rw [backupLocation_concat] at hfree ⊢
    apply Writable.of_directory _ hfree
    apply entryAt?_of_append (k := [name]) (List.cons_ne_nil _ _)
    rw [h]
    exact Option.some_ne_none _

/-! ## What a task makes of its file -/

/-- What becomes of a file by what reading it gives, if nothing keeps it from being written. -/
def resultOf (c : Config) (read : Except Failure Bytes) (f : SourceFile) : FileResult :=
  ⟨f, read >>= outcomeOf c⟩

@[simp] theorem resultOf_ok (c : Config) (bytes : Bytes) (f : SourceFile) :
    resultOf c (.ok bytes) f = ⟨f, outcomeOf c bytes⟩ := rfl

@[simp] theorem resultOf_error (c : Config) (e : Failure) (f : SourceFile) :
    resultOf c (.error e) f = ⟨f, .error e⟩ := rfl

/-- The task of a file is to write it: the mode says so, and formatting changes the file. -/
structure Due (c : Config) (mode : Mode) (root : FileTree) (f : SourceFile) (bytes : Bytes)
    (o : FileOutcome) : Prop where
  write : mode = .write
  content : root.content? f.location = some bytes
  formatted : outcomeOf c bytes = .ok o
  changed : o.changed = true

/-- A copy is to be kept, and a directory stands in its place. -/
def Blocked (backup : Bool) (root : FileTree) (f : SourceFile) : Prop :=
  backup = true ∧ root.entryAt? (backupLocation f.location) = some .directory

instance (backup : Bool) (root : FileTree) (f : SourceFile) : Decidable (Blocked backup root f) :=
  inferInstanceAs (Decidable (_ ∧ _))

/-- What becomes of a file in a batch. -/
def resultIn (c : Config) (mode : Mode) (backup : Bool) (root : FileTree) (f : SourceFile) :
    FileResult :=
  let r := resultOf c (readFile root f.location) f
  if mode = .write ∧ r.changed ∧ Blocked backup root f then ⟨f, .error .isDirectory⟩ else r

variable {c : Config} {mode : Mode} {backup : Bool} {root now : FileTree} {f : SourceFile}
  {bytes : Bytes} {o : FileOutcome} {stage : Stage}

theorem Due.entry (h : Due c mode root f bytes o) :
    root.entryAt? f.location = some (.file bytes) :=
  content?_eq_some_iff.mp h.content

theorem Due.unique {bytes' : Bytes} {o' : FileOutcome} (h : Due c mode root f bytes o)
    (h' : Due c mode root f bytes' o') : bytes' = bytes ∧ o' = o := by
  have hbytes : bytes' = bytes := Option.some.inj (h'.content.symm.trans h.content)
  subst hbytes
  have ho := h'.formatted.symm.trans h.formatted
  exact ⟨rfl, Except.ok.inj ho⟩

theorem Due.resultOf_eq (h : Due c mode root f bytes o) :
    resultOf c (readFile root f.location) f = ⟨f, .ok o⟩ := by
  rw [readFile_eq_ok_iff.mpr h.content, resultOf_ok, h.formatted]

theorem Due.resultIn_eq (h : Due c mode root f bytes o) :
    resultIn c mode backup root f =
      if Blocked backup root f then ⟨f, .error .isDirectory⟩ else ⟨f, .ok o⟩ := by
  rw [resultIn, h.resultOf_eq]
  by_cases hblocked : Blocked backup root f
  · rw [if_pos hblocked, if_pos ⟨h.write, h.changed, hblocked⟩]
  · rw [if_neg hblocked, if_neg fun hcase => hblocked hcase.2.2]

theorem exists_due (hmode : mode = .write)
    (h : (resultOf c (readFile root f.location) f).changed = true) :
    ∃ bytes o, Due c mode root f bytes o := by
  cases hread : readFile root f.location with
  | error e => simp [hread, FileResult.changed] at h
  | ok bytes =>
      cases houtcome : outcomeOf c bytes with
      | error e => simp [hread, houtcome, FileResult.changed] at h
      | ok o =>
          refine ⟨bytes, o, hmode, readFile_eq_ok_iff.mp hread, houtcome, ?_⟩
          simpa [hread, houtcome, FileResult.changed] using h

theorem resultIn_of_not_due (h : ¬ ∃ bytes o, Due c mode root f bytes o) :
    resultIn c mode backup root f = resultOf c (readFile root f.location) f := by
  rw [resultIn, if_neg]
  rintro ⟨hmode, hchanged, -⟩
  exact h (exists_due hmode hchanged)

/-! ## One turn -/

/-- Nothing has changed where the task of a file may write. -/
structure Unmoved (root now : FileTree) (f : SourceFile) : Prop where
  original : now.entryAt? f.location = root.entryAt? f.location
  copy : now.entryAt? (backupLocation f.location) = root.entryAt? (backupLocation f.location)

/-- What stands where the copy of a file is kept, once it is kept if it is to be. -/
def copied (backup : Bool) (root : FileTree) (f : SourceFile) (bytes : Bytes) : Option Entry :=
  if backup then some (.file bytes) else root.entryAt? (backupLocation f.location)

/-- What each stage of the task of a file says of the files before the batch and now. -/
inductive Holds (c : Config) (mode : Mode) (backup : Bool) (root now : FileTree) (f : SourceFile) :
    Stage → Prop
  | waiting (hunmoved : Unmoved root now f) : Holds c mode backup root now f .waiting
  | copying {bytes : Bytes} {o : FileOutcome} (hdue : Due c mode root f bytes o)
      (hbackup : backup = true) (hunmoved : Unmoved root now f) :
      Holds c mode backup root now f (.copying bytes o)
  | writing {bytes : Bytes} {o : FileOutcome} (hdue : Due c mode root f bytes o)
      (hfree : ¬ Blocked backup root f)
      (horiginal : now.entryAt? f.location = some (.file bytes))
      (hcopy : now.entryAt? (backupLocation f.location) = copied backup root f bytes) :
      Holds c mode backup root now f (.writing o)
  | untouched (hdue : ¬ ∃ bytes o, Due c mode root f bytes o) (hunmoved : Unmoved root now f) :
      Holds c mode backup root now f (.done (resultOf c (readFile root f.location) f).outcome)
  | blocked {bytes : Bytes} {o : FileOutcome} (hdue : Due c mode root f bytes o)
      (hblocked : Blocked backup root f) (hunmoved : Unmoved root now f) :
      Holds c mode backup root now f (.done (.error .isDirectory))
  | written {bytes : Bytes} {o : FileOutcome} (hdue : Due c mode root f bytes o)
      (hfree : ¬ Blocked backup root f)
      (horiginal : now.entryAt? f.location = some (.file (Text.encode o.formatted)))
      (hcopy : now.entryAt? (backupLocation f.location) = copied backup root f bytes) :
      Holds c mode backup root now f (.done (.ok o))

/-- A batch makes and removes no directory. -/
def SameDirectories (root now : FileTree) : Prop :=
  ∀ l, now.entryAt? l = some .directory ↔ root.entryAt? l = some .directory

/-- What a turn of the task of a file does to the files: nothing, or it writes one of its two. -/
inductive Moves (now : FileTree) (f : SourceFile) : FileTree → Prop
  | stay : Moves now f now
  | put {l : Location} (content : Bytes) (hl : l = f.location ∨ l = backupLocation f.location)
      (hwritable : Writable now l) : Moves now f (now.put l (.file content))

theorem Moves.entryAt?_eq {after : FileTree} (h : Moves now f after) {l : Location}
    (horiginal : l ≠ f.location) (hcopy : l ≠ backupLocation f.location) :
    after.entryAt? l = now.entryAt? l := by
  cases h with
  | stay => rfl
  | put content hl hwritable =>
      rw [entryAt?_put_file hwritable, if_neg]
      rintro rfl
      rcases hl with hl | hl
      · exact horiginal hl
      · exact hcopy hl

theorem Moves.sameDirectories {after : FileTree} (h : Moves now f after)
    (hnow : SameDirectories root now) : SameDirectories root after := by
  intro l
  cases h with
  | stay => exact hnow l
  | put content hl hwritable =>
      rw [entryAt?_put_file_eq_directory_iff hwritable]
      exact hnow l

/-- The stage behind the reading of a file that holds what it held before the batch. -/
theorem holds_stageOf (hcontent : root.content? f.location = some bytes)
    (hunmoved : Unmoved root now f) :
    Holds c mode backup root now f (stageOf c mode backup bytes) := by
  have hdue {bytes' : Bytes} {o : FileOutcome} (h : Due c mode root f bytes' o) :
      mode = .write ∧ outcomeOf c bytes = .ok o ∧ o.changed = true := by
    obtain rfl := Option.some.inj (hcontent.symm.trans h.content)
    exact ⟨h.write, h.formatted, h.changed⟩
  have hleft (h : ¬ ∃ bytes o, Due c mode root f bytes o) :
      Holds c mode backup root now f (.done (outcomeOf c bytes)) := by
    have hdone : Holds c mode backup root now f _ := .untouched h hunmoved
    rwa [readFile_eq_ok_iff.mpr hcontent, resultOf_ok] at hdone
  rw [stageOf]
  cases houtcome : outcomeOf c bytes with
  | error e =>
      rw [houtcome] at hleft
      apply hleft
      rintro ⟨bytes', o, h⟩
      have hformatted := (hdue h).2.1
      rw [houtcome] at hformatted
      cases hformatted
  | ok o =>
      dsimp only
      by_cases hwrites : (o.changed && mode == .write) = true
      · rw [if_pos hwrites]
        rw [Bool.and_eq_true, beq_iff_eq] at hwrites
        have h : Due c mode root f bytes o := ⟨hwrites.2, hcontent, houtcome, hwrites.1⟩
        cases hbackup : backup with
        | true => exact .copying h rfl hunmoved
        | false =>
            apply Holds.writing h
            · simp [Blocked]
            · rw [hunmoved.original, h.entry]
            · exact hunmoved.copy
      · rw [if_neg hwrites]
        rw [houtcome] at hleft
        apply hleft
        rintro ⟨bytes', o', h⟩
        obtain ⟨hmode, hformatted, hchanged⟩ := hdue h
        rw [houtcome] at hformatted
        cases hformatted
        apply hwrites
        rw [hchanged, hmode]
        rfl

/-- A turn of the task of a file keeps what its stages say, and writes nothing else. -/
theorem holds_advance (hown : f.location ≠ backupLocation f.location)
    (hnow : SameDirectories root now) (h : Holds c mode backup root now f stage) :
    let (stage, after) := advance c mode backup now f stage
    Holds c mode backup root after f stage ∧ Moves now f after := by
  cases h with
  | waiting hunmoved =>
      have hread : readFile now f.location = readFile root f.location := by
        rw [readFile_eq, readFile_eq, hunmoved.original]
      rw [advance, hread]
      cases hroot : readFile root f.location with
      | ok bytes => exact ⟨holds_stageOf (readFile_eq_ok_iff.mp hroot) hunmoved, .stay⟩
      | error e =>
          have hdue : ¬ ∃ bytes o, Due c mode root f bytes o := by
            rintro ⟨bytes, o, hdue⟩
            cases hroot.symm.trans (readFile_eq_ok_iff.mpr hdue.content)
          have hdone : Holds c mode backup root now f _ := .untouched hdue hunmoved
          rw [hroot] at hdone
          exact ⟨hdone, .stay⟩
  | @copying bytes o hdue hbackup hunmoved =>
      rw [advance, overwrite_eq]
      by_cases hdirectory : now.entryAt? (backupLocation f.location) = some .directory
      · rw [if_pos hdirectory]
        refine ⟨?_, .stay⟩
        apply Holds.blocked hdue _ hunmoved
        exact ⟨hbackup, (hnow _).mp hdirectory⟩
      · rw [if_neg hdirectory]
        have horiginal : now.entryAt? f.location = some (.file bytes) := by
          rw [hunmoved.original, hdue.entry]
        have hwritable := writable_backupLocation horiginal hdirectory
        refine ⟨?_, .put bytes (.inr rfl) hwritable⟩
        apply Holds.writing hdue
        · exact fun hblocked => hdirectory ((hnow _).mpr hblocked.2)
        · rw [entryAt?_put_file hwritable, if_neg hown, horiginal]
        · rw [entryAt?_put_file hwritable, if_pos rfl, copied, if_pos hbackup]
  | @writing bytes o hdue hfree horiginal hcopy =>
      have hwritable : Writable now f.location := .of_file horiginal
      rw [advance, overwrite_eq, if_neg hwritable.free]
      refine ⟨?_, .put _ (.inl rfl) hwritable⟩
      apply Holds.written hdue hfree
      · rw [entryAt?_put_file hwritable, if_pos rfl]
      · rw [entryAt?_put_file hwritable, if_neg hown.symm, hcopy]
  | untouched hdue hunmoved => exact ⟨.untouched hdue hunmoved, .stay⟩
  | blocked hdue hblocked hunmoved => exact ⟨.blocked hdue hblocked hunmoved, .stay⟩
  | written hdue hfree horiginal hcopy => exact ⟨.written hdue hfree horiginal hcopy, .stay⟩

theorem Holds.congr {after : FileTree} (h : Holds c mode backup root now f stage)
    (horiginal : after.entryAt? f.location = now.entryAt? f.location)
    (hcopy : after.entryAt? (backupLocation f.location) =
      now.entryAt? (backupLocation f.location)) :
    Holds c mode backup root after f stage := by
  have hunmoved (h : Unmoved root now f) : Unmoved root after f :=
    ⟨horiginal.trans h.original, hcopy.trans h.copy⟩
  cases h with
  | waiting h => exact .waiting (hunmoved h)
  | copying hdue hbackup h => exact .copying hdue hbackup (hunmoved h)
  | writing hdue hfree ho hc =>
      exact .writing hdue hfree (horiginal.trans ho) (hcopy.trans hc)
  | untouched hdue h => exact .untouched hdue (hunmoved h)
  | blocked hdue hblocked h => exact .blocked hdue hblocked (hunmoved h)
  | written hdue hfree ho hc =>
      exact .written hdue hfree (horiginal.trans ho) (hcopy.trans hc)

/-! ## A task that is done -/

/-- What the task of a file leaves at a location, if it writes there. -/
inductive Writes (c : Config) (mode : Mode) (backup : Bool) (root : FileTree) (f : SourceFile) :
    Location → Bytes → Prop
  | original {bytes : Bytes} {o : FileOutcome} (hdue : Due c mode root f bytes o)
      (hfree : ¬ Blocked backup root f) :
      Writes c mode backup root f f.location (Text.encode o.formatted)
  | copy {bytes : Bytes} {o : FileOutcome} (hdue : Due c mode root f bytes o)
      (hfree : ¬ Blocked backup root f) (hbackup : backup = true) :
      Writes c mode backup root f (backupLocation f.location) bytes

theorem Writes.due {l : Location} {content : Bytes}
    (h : Writes c mode backup root f l content) :
    ∃ bytes o, Due c mode root f bytes o ∧ ¬ Blocked backup root f := by
  cases h with
  | original hdue hfree => exact ⟨_, _, hdue, hfree⟩
  | copy hdue hfree hbackup => exact ⟨_, _, hdue, hfree⟩

variable {outcome : Except Failure FileOutcome}

theorem Holds.result_eq (h : Holds c mode backup root now f (.done outcome)) :
    ⟨f, outcome⟩ = resultIn c mode backup root f := by
  cases h with
  | untouched hdue hunmoved =>
      rw [resultIn_of_not_due hdue]
      rfl
  | blocked hdue hblocked hunmoved => rw [hdue.resultIn_eq, if_pos hblocked]
  | written hdue hfree horiginal hcopy => rw [hdue.resultIn_eq, if_neg hfree]

theorem Holds.content_of_writes (h : Holds c mode backup root now f (.done outcome))
    {l : Location} {content : Bytes} (hwrites : Writes c mode backup root f l content) :
    now.content? l = some content := by
  obtain ⟨bytes, o, hdue, hfree⟩ := hwrites.due
  rw [content?_eq_some_iff]
  cases h with
  | untouched hleft hunmoved => exact absurd ⟨bytes, o, hdue⟩ hleft
  | blocked hdue' hblocked hunmoved => exact absurd hblocked hfree
  | written hdue' hfree' horiginal hcopy =>
      cases hwrites with
      | original hdue'' hfree'' =>
          obtain ⟨-, rfl⟩ := hdue'.unique hdue''
          exact horiginal
      | copy hdue'' hfree'' hbackup =>
          obtain ⟨rfl, -⟩ := hdue'.unique hdue''
          rw [hcopy, copied, if_pos hbackup]

theorem Holds.entryAt?_of_not_writes (h : Holds c mode backup root now f (.done outcome))
    {l : Location} (hl : l = f.location ∨ l = backupLocation f.location)
    (hwrites : ∀ content, ¬ Writes c mode backup root f l content) :
    now.entryAt? l = root.entryAt? l := by
  have hunmoved (h : Unmoved root now f) : now.entryAt? l = root.entryAt? l := by
    rcases hl with rfl | rfl
    · exact h.original
    · exact h.copy
  cases h with
  | untouched hdue h => exact hunmoved h
  | blocked hdue hblocked h => exact hunmoved h
  | @written bytes o hdue hfree horiginal hcopy =>
      rcases hl with rfl | rfl
      · exact absurd (.original hdue hfree) (hwrites _)
      · rw [hcopy, copied, if_neg]
        intro hbackup
        exact hwrites _ (.copy hdue hfree hbackup)

/-! ## A task on its own -/

theorem save_without_copy (l : Location) (bytes : Bytes) (formatted : Text) :
    save false now l bytes formatted = overwrite now l (Text.encode formatted) := rfl

theorem save_with_copy (l : Location) (bytes : Bytes) (formatted : Text) :
    save true now l bytes formatted =
      (overwrite now (backupLocation l) bytes).bind (overwrite · l (Text.encode formatted)) := rfl

theorem overwrite_after_copy (hentry : now.entryAt? f.location = some (.file bytes))
    {after : FileTree} (h : overwrite now (backupLocation f.location) bytes = .ok after)
    (content : Bytes) :
    overwrite after f.location content = .ok (after.put f.location (.file content)) := by
  rw [overwrite_eq] at h
  split at h
  · cases h
  · next hdirectory =>
      cases h
      have hwritable := writable_backupLocation hentry hdirectory
      rw [overwrite_eq, if_neg]
      rw [entryAt?_put_file_eq_directory_iff hwritable, hentry]
      exact fun hfile => by cases hfile

theorem file_formatFile : (formatFile c mode backup now f).1.file = f := by
  rw [formatFile]
  split
  · rfl
  · split
    · rfl
    · split
      · split
        · rfl
        · rfl
      · rfl

theorem root_formatFile (hmode : mode ≠ .write) : (formatFile c mode backup now f).2 = now := by
  rw [formatFile]
  split
  · rfl
  · split
    · rfl
    · rw [if_neg]
      rw [Bool.and_eq_true, beq_iff_eq]
      exact fun hcase => hmode hcase.2

theorem root_formatFiles (hmode : mode ≠ .write) (files : List SourceFile) :
    (formatFiles c mode backup now files).2 = now := by
  induction files generalizing now with
  | nil => rfl
  | cons f rest ih =>
      rw [formatFiles]
      dsimp only
      rw [ih, root_formatFile hmode]

/-- Three turns in a row format a file. -/
theorem advance_three (c : Config) (mode : Mode) (backup : Bool) (now : FileTree)
    (f : SourceFile) :
    let first := advance c mode backup now f .waiting
    let second := advance c mode backup first.2 f first.1
    let third := advance c mode backup second.2 f second.1
    let (result, after) := formatFile c mode backup now f
    third = (.done result.outcome, after) := by
  rw [advance, formatFile]
  cases hread : readFile now f.location with
  | error e => rfl
  | ok bytes =>
    dsimp only
    rw [stageOf]
    cases houtcome : outcomeOf c bytes with
    | error e => rfl
    | ok o =>
        dsimp only
        split
        · cases backup with
          | false =>
              cases hwrite : overwrite now f.location (Text.encode o.formatted) with
              | error e => simp [advance, save_without_copy, hwrite]
              | ok after => simp [advance, save_without_copy, hwrite]
          | true =>
              cases hcopy : overwrite now (backupLocation f.location) bytes with
              | error e => simp [advance, save_with_copy, hcopy, Except.bind]
              | ok after =>
                  have hentry := content?_eq_some_iff.mp (readFile_eq_ok_iff.mp hread)
                  have hwrite := overwrite_after_copy hentry hcopy
                  simp [advance, save_with_copy, hcopy, hwrite, Except.bind]
        · rfl

end Batch

end Tidymark
