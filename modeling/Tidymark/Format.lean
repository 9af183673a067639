import Tidymark.Document.Reading
import Tidymark.Engine
import Tidymark.FrontMatter
import Tidymark.Render
import Tidymark.Text.Utf8

/-!
# Formatting

A source is decoded, its front matter is set aside, and its body is read,
passed through the standard rules and rendered.
-/

namespace Tidymark

def formatBody (c : Config) (body : Text) : Except Failure Text := do
  let d ← Engine.standard.format c (Document.read body)
  d.render c

/-- A source formatted.  Front matter stays as it is. -/
def formatText (c : Config) (source : Text) : Except Failure Text := do
  let (front, body) := FrontMatter.split source
  return FrontMatter.attach front (← formatBody c body)

/-- Bytes as a text, or the failure of a source that is no UTF-8. -/
def decodeSource (bytes : Bytes) : Except Failure Text :=
  match Utf8.decode bytes with
  | .ok s => .ok s
  | .error fault => .error (.encoding fault)

def format (c : Config) (bytes : Bytes) : Except Failure Text := do
  formatText c (← decodeSource bytes)

end Tidymark
