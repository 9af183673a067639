import Tidymark.Config
import Tidymark.Failure
import Tidymark.FileTree
import Tidymark.Ignore
import Tidymark.Text.Case

/-!
# Discovery

The files to format are those that the given paths lead to, or that lie below
them, if their extension is allowed and nothing on the way is ignored.  Each
file is found once.
-/

namespace Tidymark

/-- A file to format: the path it was found by, where it stands, and its size in bytes. -/
structure SourceFile where
  path : Text
  location : Location
  size : Nat
  deriving DecidableEq, Repr

namespace Discovery

/-- Whether a path has one of the allowed extensions, all of them taken in lower case. -/
def isAllowed (extensions : List Text) (path : Text) : Bool :=
  match Path.extension? path with
  | some extension => extensions.any fun e => Text.lower e == '.' :: Text.lower extension
  | none => false

mutual

/-- The files at and below a path, in the order of names, without what is ignored. -/
def walk (patterns : List Text) (path : Text) (here : Location) : FileTree → List SourceFile
  | .file content => if isIgnored patterns path then [] else [⟨path, here, content.length⟩]
  | .directory entries =>
      if isIgnored patterns path then [] else walkEntries patterns path here entries

def walkEntries (patterns : List Text) (path : Text) (here : Location) :
    List (Text × FileTree) → List SourceFile
  | [] => []
  | (name, t) :: rest =>
      walk patterns (Path.join path name) (here ++ [name]) t ++ walkEntries patterns path here rest

end

def distinct (seen : List Location) : List SourceFile → List SourceFile
  | [] => []
  | f :: rest =>
      if seen.contains f.location then distinct seen rest
      else f :: distinct (f.location :: seen) rest

/-- The files that paths lead to from a directory, or the first path that leads nowhere. -/
def reach (patterns : List Text) (root : FileTree) (here : Location) :
    List Text → Except Failure (List SourceFile)
  | [] => .ok []
  | path :: rest =>
      match root.locate? here path with
      | none => .error (.missingPath path)
      | some location =>
          match root.at? location with
          | none => .error (.missingPath path)
          | some t => do
              let found ← reach patterns root here rest
              return walk patterns path location t ++ found

end Discovery

def findFiles (c : Config) (root : FileTree) (here : Location) (paths : List Text) :
    Except Failure (List SourceFile) := do
  let found ← Discovery.reach c.files.ignorePatterns root here paths
  return Discovery.distinct []
    (found.filter fun f => Discovery.isAllowed c.files.extensions f.path)

end Tidymark
