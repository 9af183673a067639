import Tidymark.Reflow.Opener

/-!
# Reflow

The tokens of a text are grouped into clusters that must share a line, and
the clusters fill lines greedily up to a width, counted in characters.  A
cluster wider than a line stands alone on one.
-/

namespace Tidymark

/-- Tokens that must share a line: one token and the block openers behind it. -/
abbrev Cluster := List Token

namespace Cluster

def endsHard (cluster : Cluster) : Bool :=
  match cluster.getLast? with
  | some token => token.hardBreak
  | none => false

def text (cluster : Cluster) : Text := Text.joinWords (cluster.map (·.text))

def width (cluster : Cluster) : Nat := cluster.text.length

def groupFrom (current : Cluster) : List Token → List Cluster
  | [] => [current]
  | token :: rest =>
      if Token.opensBlock token.text && !current.endsHard then
        groupFrom (current ++ [token]) rest
      else current :: groupFrom [token] rest

def group : List Token → List Cluster
  | [] => []
  | token :: rest => groupFrom [token] rest

end Cluster

abbrev Line := List Cluster

namespace Line

def text (line : Line) : Text := Text.joinWords (line.map Cluster.text)

def width (line : Line) : Nat := line.text.length

/-- Place clusters on lines, of which `current` is the one being filled. -/
def fillFrom (width : Nat) (current : Line) : List Cluster → List Line
  | [] => if current.isEmpty then [] else [current]
  | cluster :: rest =>
      if !current.isEmpty && current.width + 1 + cluster.width > width then
        current ::
          (if cluster.endsHard then [cluster] :: fillFrom width [] rest
          else fillFrom width [cluster] rest)
      else if cluster.endsHard then (current ++ [cluster]) :: fillFrom width [] rest
      else fillFrom width (current ++ [cluster]) rest

def fill (width : Nat) (clusters : List Cluster) : List Line := fillFrom width [] clusters

end Line

/-- The text broken anew into lines of at most `width` characters; width zero and a
text without tokens leave it as it is. -/
def reflow (width : Nat) (s : Text) : Text :=
  match width, Token.ofText s with
  | 0, _ => s
  | _, [] => s
  | width, tokens => Text.joinLines ((Line.fill width (Cluster.group tokens)).map Line.text)

namespace Text

/-- The text with blank runs inside each line made one space, and each line trimmed. -/
def collapseBlanks (s : Text) : Text := joinLines ((lines s).map fun line => joinWords (words line))

def isSpaceOrTab (c : Char) : Bool := c == ' ' || c == '\t'

def trimLineEnds (s : Text) : Text := joinLines ((lines s).map (dropEndWhile isSpaceOrTab))

end Text

end Tidymark
