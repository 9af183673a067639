import Tidymark.Path
import Tidymark.Text.Utf8

/-!
# Trees of files

Files and directories, and where a path leads among them.  A location is the
list of names that leads from the root to a file or directory, so two paths
lead to the same file if and only if they have the same location.
-/

namespace Tidymark

/-- A file with its bytes, or a directory with its entries in the order of their names. -/
inductive FileTree where
  | file (content : Bytes)
  | directory (entries : List (Text × FileTree))

/-- The names that lead from the root to a file or directory. -/
abbrev Location := List Text

namespace FileTree

def empty : FileTree := .directory []

def child? (name : Text) : FileTree → Option FileTree
  | .file _ => none
  | .directory entries => entries.lookup name

def at? : Location → FileTree → Option FileTree
  | [], t => some t
  | name :: rest, t => (t.child? name).bind (at? rest)

/-- Whether a name comes before another: by its bytes, which is by its characters. -/
def comesBefore : Text → Text → Bool
  | _, [] => false
  | [], _ :: _ => true
  | c :: s, d :: t => if c = d then comesBefore s t else c.toNat < d.toNat

/-- Put an entry among entries in the order of names, in place of one of the same name. -/
def putEntry (name : Text) (t : FileTree) : List (Text × FileTree) → List (Text × FileTree)
  | [] => [(name, t)]
  | (other, u) :: rest =>
      if other = name then (name, t) :: rest
      else if comesBefore name other then (name, t) :: (other, u) :: rest
      else (other, u) :: putEntry name t rest

/-- Put something at a location.  Directories missing on the way are made, and a file that is in
the way makes room. -/
def put : FileTree → Location → FileTree → FileTree
  | _, [], new => new
  | t, name :: rest, new =>
      let entries := match t with
        | .file _ => []
        | .directory entries => entries
      .directory (putEntry name (put ((entries.lookup name).getD empty) rest new) entries)

/-! Where a path leads -/

/-- Follow the parts of a path from a location.  Every part needs a directory to start from. -/
def follow? (root : FileTree) : Location → List Text → Option Location
  | here, [] => if (at? here root).isSome then some here else none
  | here, part :: rest =>
      match at? here root with
      | some (.directory _) =>
          if part = [] ∨ part = ['.'] then follow? root here rest
          else if part = "..".toList then follow? root here.dropLast rest
          else follow? root (here ++ [part]) rest
      | _ => none

/-- The locations that the parts of a path lead past, whatever stands there. -/
def waypoints (here : Location) : List Text → List Location
  | [] => [here]
  | part :: rest =>
      here ::
        if part = [] ∨ part = ['.'] then waypoints here rest
        else if part = "..".toList then waypoints here.dropLast rest
        else waypoints (here ++ [part]) rest

def locate? (root : FileTree) (here : Location) (path : Text) : Option Location :=
  if path.isEmpty then none
  else follow? root (if Path.isAbsolute path then [] else here) (Path.split path)

def find? (root : FileTree) (here : Location) (path : Text) : Option FileTree :=
  (root.locate? here path).bind fun location => at? location root

def read? (root : FileTree) (here : Location) (path : Text) : Option Bytes :=
  match root.find? here path with
  | some (.file content) => some content
  | _ => none

/-! All files -/

mutual

/-- The files of a tree at a location, in the order of the walk. -/
def filesFrom (here : Location) : FileTree → List (Location × Bytes)
  | .file content => [(here, content)]
  | .directory entries => entryFiles here entries

def entryFiles (here : Location) : List (Text × FileTree) → List (Location × Bytes)
  | [] => []
  | (name, t) :: rest => filesFrom (here ++ [name]) t ++ entryFiles here rest

end

def files (t : FileTree) : List (Location × Bytes) := filesFrom [] t

end FileTree

end Tidymark
