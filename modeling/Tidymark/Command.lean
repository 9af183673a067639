import Tidymark.Command.Arguments
import Tidymark.Config.Print
import Tidymark.Config.Search
import Tidymark.Diff

/-!
# The command

What a command prints, the status it ends with, and the files afterwards.
-/

namespace Tidymark

namespace Command

structure Outcome where
  /-- Zero for success, one if files need formatting, two for errors. -/
  status : Nat
  printed : Text := []
  errors : List Text := []
  files : FileTree

def versionLine : Text := "mdfmt 0.1.0\n".toList

def helpText : Text :=
  ("Format Markdown files with consistent, diff-friendly style\n\n" ++
    "Usage: mdfmt [OPTIONS] [PATHS]...\n\n" ++
    "Arguments:\n" ++
    "  [PATHS]...  Files or directories to format\n\n" ++
    "Options:\n" ++
    "  -w, --write          Write the result back to the source files\n" ++
    "  -c, --check          Exit with status 1 if any file needs formatting\n" ++
    "  -l, --list           List files whose formatting differs\n" ++
    "  -d, --diff           Show a diff of the changes instead of writing them\n" ++
    "      --config <FILE>  Config file (YAML, JSON or TOML); searched upwards from the current " ++
    "directory otherwise\n" ++
    "      --backup         Keep a `.backup` copy of every file rewritten by --write\n" ++
    "  -v, --verbose        \n" ++
    "  -q, --quiet          \n" ++
    "      --print-config   Print the effective configuration as YAML and exit\n" ++
    "  -h, --help           Print help\n" ++
    "  -V, --version        Print version\n").toList

def errorLine (message : Text) : Text := "Error: ".toList ++ message

def printedFor (mode : Mode) (quiet : Bool) (path : Text) (o : FileOutcome) : Text :=
  match mode with
  | .stdout => o.formatted
  | .write => if o.changed && !quiet then "Formatted: ".toList ++ path ++ ['\n'] else []
  | .check => if o.changed && !quiet then "would reformat ".toList ++ path ++ ['\n'] else []
  | .list => if o.changed then path ++ ['\n'] else []
  | .diff =>
      if o.changed then
        "--- ".toList ++ path ++ "\n+++ ".toList ++ path ++ '\n' :: Diff.render o.source o.formatted
      else []

def printed (mode : Mode) (quiet : Bool) (r : FileResult) : Text :=
  match r.outcome with
  | .ok o => printedFor mode quiet r.file.path o
  | .error _ => []

def errorLine? (r : FileResult) : Option Text :=
  match r.outcome with
  | .ok _ => none
  | .error e => some (errorLine (r.file.path ++ ": ".toList ++ e.message.toList))

def status (mode : Mode) (results : List FileResult) : Nat :=
  if results.any fun r => (errorLine? r).isSome then 2
  else if mode = .check ∧ results.any FileResult.changed then 1
  else 0

/-- Run a command in a directory: load the settings, find the files and format them. -/
def run (root : FileTree) (here : Location) (a : Arguments) : Except Failure Outcome := do
  let c ← Config.load root here a.config ('/' :: Path.unsplit here)
  if a.has .printConfig then return { status := 0, printed := c.toYaml, files := root }
  else
    let found ← findFiles c root here a.paths
    let (results, after) := formatFiles c a.mode (a.has .backup) root found
    return {
      status := status a.mode results
      printed := results.flatMap (printed a.mode (a.has .quiet))
      errors := results.filterMap errorLine?
      files := after }

def execute (root : FileTree) (here : Location) (args : List Text) : Outcome :=
  match Request.ofArguments args with
  | .version => { status := 0, printed := versionLine, files := root }
  | .help => { status := 0, printed := helpText, files := root }
  | .misuse => { status := 2, files := root }
  | .run a =>
      match run root here a with
      | .ok outcome => outcome
      | .error e => { status := 2, errors := [errorLine e.message.toList], files := root }

end Command

end Tidymark
