import Tidymark.Config.Read
import Tidymark.FileTree

/-!
# Finding settings files

Without a settings file given by its path, the nearest one in a directory or
above it counts, and without any the defaults.
-/

namespace Tidymark

namespace Config

/-- The names of settings files, in the order in which they are looked for. -/
def fileNames : List Text :=
  [".mdfmt.yaml".toList, ".mdfmt.yml".toList, ".mdfmt.json".toList, ".mdfmt.toml".toList,
    "mdfmt.yaml".toList, "mdfmt.yml".toList, "mdfmt.json".toList, "mdfmt.toml".toList]

/-- The paths at which a settings file may stand for a directory, nearest first. -/
def candidates (dir : Text) : List Text :=
  (Path.ancestors dir).flatMap fun d => fileNames.map (Path.join d)

def findFile? (root : FileTree) (here : Location) (dir : Text) : Option Text :=
  (candidates dir).find? fun path => (root.read? here path).isSome

def loadFile (root : FileTree) (here : Location) (path : Text) : Except Failure Config := do
  match root.read? here path with
  | none => .error (.missingPath path)
  | some bytes =>
      match (Path.extension? path).bind ConfigFormat.ofExtension? with
      | none => .error (.invalidConfig (.unknownFileType path))
      | some format =>
          match Utf8.decode bytes with
          | .error _ => .error (@Failure.unreadable .notText)
          | .ok s => do
              let c ← ofText format s
              c.validate
              return c

/-- The settings that count: those of the file given, or of the nearest one, or the defaults. -/
def load (root : FileTree) (here : Location) (given : Option Text) (dir : Text) :
    Except Failure Config :=
  match given.or (findFile? root here dir) with
  | some path => loadFile root here path
  | none => .ok {}

end Config

end Tidymark
