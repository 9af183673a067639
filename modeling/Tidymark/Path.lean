import Tidymark.Text

/-!
# Paths

A path is a text with slashes between its parts.  Empty parts and single dots
within a path mean nothing; a slash at the start, a single dot at the start
and two dots do.
-/

namespace Tidymark

namespace Path

def split : Text → List Text
  | [] => [[]]
  | c :: s => if c = '/' then [] :: split s else Text.consFirst c (split s)

def unsplit : List Text → Text
  | [] => []
  | [part] => part
  | part :: next :: rest => part ++ '/' :: unsplit (next :: rest)

theorem split_ne_nil (s : Text) : split s ≠ [] := by
  cases s with
  | nil => simp [split]
  | cons c s =>
      unfold split
      split
      · simp
      · cases Path.split s <;> simp [Text.consFirst]

theorem unsplit_consFirst (c : Char) (ps : List Text) :
    unsplit (Text.consFirst c ps) = c :: unsplit ps := by
  cases ps with
  | nil => rfl
  | cons p rest => cases rest <;> rfl

@[simp] theorem unsplit_split (s : Text) : unsplit (split s) = s := by
  induction s with
  | nil => rfl
  | cons c s ih =>
      unfold split
      split
      · next h =>
          subst h
          cases hs : Path.split s with
          | nil => exact absurd hs (split_ne_nil s)
          | cons p rest => rw [unsplit, ← hs, ih]; rfl
      · rw [unsplit_consFirst, ih]

inductive Component where
  | root
  | current
  | parent
  | name (s : Text)
  deriving DecidableEq, Repr

def inner : List Text → List Component
  | [] => []
  | part :: rest =>
      if part = [] ∨ part = ['.'] then inner rest
      else if part = "..".toList then .parent :: inner rest
      else .name part :: inner rest

def components (path : Text) : List Component :=
  match split path with
  | [] => []
  | [] :: rest => if rest.isEmpty then [] else .root :: inner rest
  | part :: rest => if part = ['.'] then .current :: inner rest else inner (part :: rest)

def isAbsolute (path : Text) : Bool := ['/'].isPrefixOf path

def namesOf : List Component → List Text
  | [] => []
  | .name s :: rest => s :: namesOf rest
  | _ :: rest => namesOf rest

def names (path : Text) : List Text := namesOf (components path)

/-- The last name of a path, if nothing follows it. -/
def fileName? (path : Text) : Option Text :=
  match (components path).getLast? with
  | some (.name s) => some s
  | _ => none

def splitLastDot? : Text → Option (Text × Text)
  | [] => none
  | c :: s =>
      match splitLastDot? s with
      | some (before, behind) => some (c :: before, behind)
      | none => if c = '.' then some ([], s) else none

/-- The extension of a name: what stands behind its last dot, unless the dot starts the name. -/
def nameExtension? (name : Text) : Option Text :=
  match splitLastDot? name with
  | some (_ :: _, behind) => some behind
  | _ => none

def extension? (path : Text) : Option Text := (fileName? path).bind nameExtension?

def join (dir name : Text) : Text :=
  if isAbsolute name || dir.isEmpty then name
  else if dir.getLast? = some '/' then dir ++ name
  else dir ++ '/' :: name

/-- Drop parts that mean nothing, newest first, from the end of a path. -/
def dropVoid : List Text → List Text
  | [] => []
  | [part] => [part]
  | part :: rest => if part = [] ∨ part = ['.'] then dropVoid rest else part :: rest

/-- The path without its last component, if it has one that is not the root. -/
def parent? (path : Text) : Option Text :=
  match dropVoid (split path).reverse with
  | [] => none
  | [part] => if part.isEmpty then none else some []
  | _ :: rest =>
      match dropVoid rest with
      | [[]] => some ['/']
      | rest => some (unsplit rest.reverse)

/-- A path and what is above it, nearest first; `fuel` bounds their number. -/
def ancestorsWithin : Nat → Text → List Text
  | 0, path => [path]
  | fuel + 1, path =>
      path :: match parent? path with
        | some up => ancestorsWithin fuel up
        | none => []

def ancestors (path : Text) : List Text := ancestorsWithin path.length path

end Path

end Tidymark
