import Tidymark.Command

/-!
# The program

The files that a command may look at are read first, the command is carried
out on them, and the files that it changed are written.  Directories are not
listed here: if a command is given one, the paths of the files below are read
from the standard input, one a line.
-/

namespace Tidymark

namespace Program

/-- The paths of the settings files and of the files that a command may look at. -/
def lookups (here : Location) (args : List Text) : List Text × List Text :=
  match Command.Request.ofArguments args with
  | .run a =>
      (match a.config with
        | some path => [path]
        | none => Config.candidates ('/' :: Path.unsplit here),
        if a.has .printConfig then [] else a.paths)
  | _ => ([], [])

def absolute (l : Location) : String := String.ofList ('/' :: Path.unsplit l)

/-- What stands at a location.  Of a directory it is only known to be one. -/
def look (l : Location) : IO (Option FileTree) := do
  try
    let content ← IO.FS.readBinFile (absolute l)
    return some (.file content.toList)
  catch
    | .noFileOrDirectory .. => return none
    | .inappropriateType .. => return some .empty
    | e => throw e

def survey (here : Location) (root : FileTree) (path : Text) : IO FileTree :=
  let start := if Path.isAbsolute path then [] else here
  (FileTree.waypoints start (Path.split path)).foldlM (fun root l => do
    match root.at? l, root.at? l.dropLast with
    | none, some (.directory _) => return ((← look l).map (root.put l)).getD root
    | _, _ => return root) root

partial def inputLines (input : IO.FS.Stream) : IO (List Text) := do
  let line ← input.getLine
  if line.isEmpty then return []
  else return line.toList.filter (· != '\n') :: (← inputLines input)

def gather (here : Location) (args : List Text) : IO FileTree := do
  let (settings, paths) := lookups here args
  let root ← (('/' :: Path.unsplit here) :: settings ++ paths).foldlM (survey here) .empty
  let isDirectory := fun path =>
    match root.find? here path with
    | some (.directory _) => true
    | _ => false
  if paths.any isDirectory then (← inputLines (← IO.getStdin)).foldlM (survey here) root
  else return root

def save (before after : FileTree) : IO Unit :=
  after.files.forM fun (l, content) => do
    match before.at? l with
    | some (.file old) => if old ≠ content then write l content
    | _ => write l content
where
  write (l : Location) (content : Bytes) : IO Unit :=
    IO.FS.writeBinFile (absolute l) ⟨content.toArray⟩

end Program

end Tidymark

open Tidymark in
def main (arguments : List String) : IO UInt32 := do
  let args := arguments.map String.toList
  try
    let here := Path.names (toString (← IO.currentDir)).toList
    let root ← Program.gather here args
    let outcome := Command.execute root here args
    Program.save root outcome.files
    IO.print (String.ofList outcome.printed)
    outcome.errors.forM fun line => IO.eprintln (String.ofList line)
    return outcome.status.toUInt32
  catch e =>
    IO.eprintln ("Error: " ++ toString e)
    return 2
