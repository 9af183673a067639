import Tidymark.Discovery
import Tidymark.Format

/-!
# Formatting files

Each file is formatted on its own: a file that fails does not stop the others.
Only in write mode files are changed, and only those that formatting changes;
what they held may be kept in a file beside them.
-/

namespace Tidymark

inductive Mode where
  | stdout
  | write
  | check
  | list
  | diff
  deriving DecidableEq, Repr

/-- A file that was formatted: its text before and after. -/
structure FileOutcome where
  source : Text
  formatted : Text
  deriving DecidableEq, Repr

def FileOutcome.changed (o : FileOutcome) : Bool := o.source != o.formatted

structure FileResult where
  file : SourceFile
  outcome : Except Failure FileOutcome

def FileResult.changed (r : FileResult) : Bool :=
  match r.outcome with
  | .ok o => o.changed
  | .error _ => false

namespace Batch

def backupLocation (l : Location) : Location :=
  match l.getLast? with
  | some name => l.dropLast ++ [name ++ ".backup".toList]
  | none => l

def readFile (root : FileTree) (l : Location) : Except Failure Bytes :=
  match root.at? l with
  | some (.file bytes) => .ok bytes
  | some (.directory _) => .error .isDirectory
  | none => .error (@Failure.unreadable .missing)

def outcomeOf (c : Config) (bytes : Bytes) : Except Failure FileOutcome := do
  let source ← decodeSource bytes
  let formatted ← format c bytes
  return ⟨source, formatted⟩

/-- Replace a file, unless a directory stands there. -/
def overwrite (root : FileTree) (l : Location) (content : Bytes) : Except Failure FileTree :=
  match root.at? l with
  | some (.directory _) => .error .isDirectory
  | _ => .ok (root.put l (.file content))

/-- Write a formatted file, and first the copy of what it held if that is kept. -/
def save (backup : Bool) (root : FileTree) (l : Location) (bytes : Bytes) (formatted : Text) :
    Except Failure FileTree := do
  let root ← if backup then overwrite root (backupLocation l) bytes else .ok root
  overwrite root l (Text.encode formatted)

/-- Format a file: the result, and the files afterwards. -/
def formatFile (c : Config) (mode : Mode) (backup : Bool) (root : FileTree) (file : SourceFile) :
    FileResult × FileTree :=
  match readFile root file.location with
  | .error e => (⟨file, .error e⟩, root)
  | .ok bytes =>
      match outcomeOf c bytes with
      | .error e => (⟨file, .error e⟩, root)
      | .ok o =>
          if o.changed && mode == .write then
            match save backup root file.location bytes o.formatted with
            | .ok after => (⟨file, .ok o⟩, after)
            | .error e => (⟨file, .error e⟩, root)
          else (⟨file, .ok o⟩, root)

end Batch

def formatFiles (c : Config) (mode : Mode) (backup : Bool) (root : FileTree) :
    List SourceFile → List FileResult × FileTree
  | [] => ([], root)
  | file :: rest =>
      let (result, root) := Batch.formatFile c mode backup root file
      let (results, root) := formatFiles c mode backup root rest
      (result :: results, root)

end Tidymark
