import Tidymark.Batch

/-!
# Arguments

The arguments of a command are switches, options with a value, and paths.
Single letters may share one hyphen.  What asks for the version or for help is
answered at once; everything else counts only if all arguments together make
sense.
-/

namespace Tidymark

namespace Command

/-- What is turned on by its name alone. -/
inductive Switch where
  | write
  | check
  | list
  | diff
  | backup
  | verbose
  | quiet
  | printConfig
  | help
  | version
  deriving DecidableEq, Repr

namespace Switch

def all : List Switch :=
  [.write, .check, .list, .diff, .backup, .verbose, .quiet, .printConfig, .help, .version]

def name : Switch → Text
  | .write => "write".toList
  | .check => "check".toList
  | .list => "list".toList
  | .diff => "diff".toList
  | .backup => "backup".toList
  | .verbose => "verbose".toList
  | .quiet => "quiet".toList
  | .printConfig => "print-config".toList
  | .help => "help".toList
  | .version => "version".toList

def letter? : Switch → Option Char
  | .write => some 'w'
  | .check => some 'c'
  | .list => some 'l'
  | .diff => some 'd'
  | .backup => none
  | .verbose => some 'v'
  | .quiet => some 'q'
  | .printConfig => none
  | .help => some 'h'
  | .version => some 'V'

def ofName? (name : Text) : Option Switch := all.find? fun s => s.name == name

def ofLetter? (c : Char) : Option Switch := all.find? fun s => s.letter? == some c

/-- The switches of which one at most is given. -/
def modes : List Switch := [.write, .check, .list, .diff]

end Switch

structure Arguments where
  switches : List Switch := []
  config : Option Text := none
  paths : List Text := []
  deriving DecidableEq, Repr

/-- What arguments come to: a task, an answer at once, or no sense. -/
inductive Request where
  | run (arguments : Arguments)
  | version
  | help
  | misuse
  deriving DecidableEq, Repr

namespace Arguments

def has (a : Arguments) (s : Switch) : Bool := a.switches.contains s

def mode (a : Arguments) : Mode :=
  if a.has .write then .write
  else if a.has .check then .check
  else if a.has .list then .list
  else if a.has .diff then .diff
  else .stdout

/-- Whether the arguments go together: one mode at most, not both more and less to be told, and
paths unless only the settings are asked for. -/
def agree (a : Arguments) : Bool :=
  (Switch.modes.filter a.has).length ≤ 1 && !(a.has .verbose && a.has .quiet) &&
    (a.has .printConfig || !a.paths.isEmpty)

/-- Turn a switch on, unless it is on already. -/
def turnOn (a : Arguments) : Switch → Except Request Arguments
  | .help => .error .help
  | .version => .error .version
  | s => if a.has s then .error .misuse else .ok { a with switches := a.switches ++ [s] }

/-- Turn on the switches of letters behind one hyphen, up to the first that is none. -/
def turnOnLetters (a : Arguments) : Text → Except Request Arguments
  | [] => .ok a
  | c :: rest =>
      match Switch.ofLetter? c with
      | none => .error .misuse
      | some s => do turnOnLetters (← a.turnOn s) rest

/-- Take in the path of the settings file, which is given once at most and is not empty. -/
def setConfig (a : Arguments) (path : Text) : Except Request Arguments :=
  if path.isEmpty || a.config.isSome then .error .misuse else .ok { a with config := some path }

def addPath (a : Arguments) (path : Text) : Except Request Arguments :=
  if path.isEmpty then .error .misuse else .ok { a with paths := a.paths ++ [path] }

/-- Whether an argument starts like a switch.  A single hyphen does not. -/
def isHyphenated : Text → Bool
  | '-' :: _ :: _ => true
  | _ => false

/-- What the next argument may be: anything, a path and nothing else, or the path of the settings
file. -/
inductive Expected where
  | anything
  | paths
  | config
  deriving DecidableEq, Repr

/-- Take in an argument behind two hyphens: a name, perhaps with a value behind an equals sign. -/
def addLong (a : Arguments) (long : Text) : Except Request (Arguments × Expected) :=
  let name := long.takeWhile (· != '=')
  match long.drop name.length with
  | [] =>
      if name = [] then .ok (a, .paths)
      else if name = "config".toList then .ok (a, .config)
      else
        match Switch.ofName? name with
        | some s => (a.turnOn s).map (·, .anything)
        | none => .error .misuse
  | _ :: value =>
      if name = "config".toList then (a.setConfig value).map (·, .anything) else .error .misuse

def add (a : Arguments) (expected : Expected) (arg : Text) :
    Except Request (Arguments × Expected) :=
  match expected with
  | .paths => (a.addPath arg).map (·, .paths)
  | .config =>
      if isHyphenated arg then .error .misuse else (a.setConfig arg).map (·, .anything)
  | .anything =>
      match Text.after? "--".toList arg with
      | some long => a.addLong long
      | none =>
          if isHyphenated arg then (a.turnOnLetters arg.tail).map (·, .anything)
          else (a.addPath arg).map (·, .anything)

def addAll (a : Arguments) (expected : Expected) : List Text → Except Request Arguments
  | [] => if expected = .config then .error .misuse else .ok a
  | arg :: rest => do
      let (a, expected) ← a.add expected arg
      addAll a expected rest

end Arguments

def Request.ofArguments (args : List Text) : Request :=
  match Arguments.addAll {} .anything args with
  | .ok a => if a.agree then .run a else .misuse
  | .error request => request

end Command

end Tidymark
