import Tidymark.Path

/-!
# Ignore patterns

A pattern that ends in a slash and two stars stands for a directory and all
below it, wherever its names occur in a row.  Another pattern with a star or a
question mark is matched with file names.  Any other pattern stands for one
path, and for every file of that name.
-/

namespace Tidymark

inductive IgnoreRule where
  | directory (names : List Text)
  | wildcard (pattern : Text)
  | place (p : Text)
  deriving DecidableEq, Repr

namespace IgnoreRule

def withoutEnding? (ending s : Text) : Option Text :=
  (Text.after? ending.reverse s.reverse).map List.reverse

def ofPattern (pattern : Text) : IgnoreRule :=
  match withoutEnding? "/**".toList pattern with
  | some dir => .directory ((Path.split dir).filter fun part => !part.isEmpty)
  | none =>
      if pattern.contains '*' || pattern.contains '?' then .wildcard pattern else .place pattern

/-- Whether a name matches a pattern in which a star stands for any characters and a question
mark for one character.  Neither stands for a slash. -/
def matchesWildcard : Text → Text → Bool
  | [], s => s.isEmpty
  | p :: ps, [] => p == '*' && matchesWildcard ps []
  | p :: ps, c :: s =>
      if p = '*' then
        matchesWildcard ps (c :: s) || (c != '/' && matchesWildcard (p :: ps) s)
      else if p = '?' then c != '/' && matchesWildcard ps s
      else p == c && matchesWildcard ps s
termination_by ps s => ps.length + s.length

def occursIn (dir : List Text) : List Text → Bool
  | [] => dir.isEmpty
  | name :: rest => dir.isPrefixOf (name :: rest) || occursIn dir rest

/-- Whether a rule applies to a path. -/
def applies (path : Text) : IgnoreRule → Bool
  | .directory dir => !dir.isEmpty && occursIn dir (Path.names path)
  | .wildcard pattern => matchesWildcard pattern ((Path.fileName? path).getD [])
  | .place p =>
      Path.components path == Path.components p || (Path.fileName? path).getD [] == p

end IgnoreRule

/-- Whether one of the patterns stands for a path. -/
def isIgnored (patterns : List Text) (path : Text) : Bool :=
  patterns.any fun pattern => (IgnoreRule.ofPattern pattern).applies path

end Tidymark
