import Tidymark.Batch

/-!
# Schedules

The files of a batch are formatted by tasks that take turns on the same files.
In a turn a task does one thing that others can see: it reads its file, keeps a
copy of it, or writes it.  A schedule names the task of each turn.  How many
tasks may be under way at once only narrows the schedules.
-/

namespace Tidymark

namespace Batch

/-- How far the task of a file has come. -/
inductive Stage where
  | waiting
  /-- The file is read and formatted; a copy of its bytes is kept next. -/
  | copying (bytes : Bytes) (o : FileOutcome)
  /-- The file is written next. -/
  | writing (o : FileOutcome)
  | done (outcome : Except Failure FileOutcome)

namespace Stage

/-- The turns that a task needs until it is done, at most. -/
def turnsLeft : Stage → Nat
  | waiting => 3
  | copying _ _ => 2
  | writing _ => 1
  | done _ => 0

def outcome? : Stage → Option (Except Failure FileOutcome)
  | done outcome => some outcome
  | _ => none

end Stage

def stageOf (c : Config) (mode : Mode) (backup : Bool) (bytes : Bytes) : Stage :=
  match outcomeOf c bytes with
  | .error e => .done (.error e)
  | .ok o =>
      if o.changed && mode == .write then if backup then .copying bytes o else .writing o
      else .done (.ok o)

/-- One turn of the task of a file. -/
def advance (c : Config) (mode : Mode) (backup : Bool) (root : FileTree) (file : SourceFile) :
    Stage → Stage × FileTree
  | .waiting =>
      match readFile root file.location with
      | .ok bytes => (stageOf c mode backup bytes, root)
      | .error e => (.done (.error e), root)
  | .copying bytes o =>
      match overwrite root (backupLocation file.location) bytes with
      | .ok after => (.writing o, after)
      | .error e => (.done (.error e), root)
  | .writing o =>
      match overwrite root file.location (Text.encode o.formatted) with
      | .ok after => (.done (.ok o), after)
      | .error e => (.done (.error e), root)
  | .done outcome => (.done outcome, root)

/-- The files, and how far the task of each file of the batch has come. -/
structure Progress where
  root : FileTree
  tasks : List (SourceFile × Stage)

namespace Progress

def start (root : FileTree) (files : List SourceFile) : Progress :=
  ⟨root, files.map (·, .waiting)⟩

def turn (c : Config) (mode : Mode) (backup : Bool) (p : Progress) (i : Nat) : Progress :=
  match p.tasks[i]? with
  | none => p
  | some (file, stage) =>
      let (stage, root) := advance c mode backup p.root file stage
      ⟨root, p.tasks.set i (file, stage)⟩

def run (c : Config) (mode : Mode) (backup : Bool) (p : Progress) (schedule : List Nat) :
    Progress :=
  schedule.foldl (turn c mode backup) p

/-- The results in the order of the files, once every task is done. -/
def results? (p : Progress) : Option (List FileResult) :=
  p.tasks.mapM fun (file, stage) => stage.outcome?.map (⟨file, ·⟩)

end Progress

/-- The schedule in which each of some tasks, from a given number on, is done before the next. -/
def inOrderFrom (first count : Nat) : List Nat :=
  (List.range' first count).flatMap (List.replicate 3)

end Batch

end Tidymark
