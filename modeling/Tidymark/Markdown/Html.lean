import Tidymark.Markdown.Line

/-!
# The start of an HTML block

Seven kinds of line start an HTML block.  Blocks of the first five kinds run
to an ending of their own, the others to a blank line.  All functions look at
what follows the opening angle bracket.
-/

namespace Tidymark

namespace Markdown

namespace Html

def lowered (s : Text) : Text := s.map Char.toLower

/-- Whether the name of an element whose content is taken verbatim starts the text. -/
def startsVerbatim (name : Text) (s : Text) : Bool :=
  lowered (s.take name.length) == name &&
    (match s.drop name.length with
      | [] => true
      | c :: _ => isAsciiBlank c || c == '>')

def ending? (s : Text) : Option Text :=
  if startsVerbatim "pre".toList s then some "</pre>".toList
  else if startsVerbatim "style".toList s then some "</style>".toList
  else if startsVerbatim "script".toList s then some "</script>".toList
  else if startsVerbatim "textarea".toList s then some "</textarea>".toList
  else if ['!', '-', '-'].isPrefixOf s then some "-->".toList
  else if ['?'].isPrefixOf s then some "?>".toList
  else if "![CDATA[".toList.isPrefixOf s then some "]]>".toList
  else
    match s with
    | '!' :: c :: _ => if c.isAlpha then some ['>'] else none
    | _ => none

/-- The elements that start an HTML block wherever they stand. -/
def blockElements : List String :=
  ["address", "article", "aside", "base", "basefont", "blockquote", "body", "caption", "center",
    "col", "colgroup", "dd", "details", "dialog", "dir", "div", "dl", "dt", "fieldset",
    "figcaption", "figure", "footer", "form", "frame", "frameset", "h1", "h2", "h3", "h4", "h5",
    "h6", "head", "header", "hr", "html", "iframe", "legend", "li", "link", "main", "menu",
    "menuitem", "nav", "noframes", "ol", "optgroup", "option", "p", "param", "search", "section",
    "summary", "table", "tbody", "td", "tfoot", "th", "thead", "title", "tr", "track", "ul"]

def startsBlockElement (s : Text) : Bool :=
  let s := match s with
    | '/' :: r => r
    | r => r
  let name := s.takeWhile Char.isAlphanum
  blockElements.any (fun e => e.toList == lowered name) &&
    (match s.drop name.length with
      | [] => true
      | '/' :: '>' :: _ => true
      | c :: _ => c == ' ' || c == '\t' || c == '\r' || c == '\n' || c == '>')

def isNameChar (c : Char) : Bool := c.isAlphanum || c == '-'

def isAttributeChar (c : Char) : Bool :=
  c.isAlphanum || c == '_' || c == '.' || c == ':' || c == '-'

def isUnquotedChar (c : Char) : Bool :=
  !(c == ' ' || c == '=' || c == '>' || c == '<' || c == '\x60' || c == '\n' || c == '\r' ||
    c == '"' || c == '\x27')

/-- The rest behind a quoted value, which must end on its line. -/
def quotedValue? (quote : Char) : Text → Option Text
  | [] => none
  | c :: s => if c = quote then some s else if isLineEnd c then none else quotedValue? quote s

def value? (s : Text) : Option Text :=
  match s with
  | [] => none
  | c :: r =>
      if c = '"' ∨ c = '\x27' then quotedValue? c r
      else if isUnquotedChar c then some (s.dropWhile isUnquotedChar)
      else none

/-- The rest behind blanks that do not reach the end of the line. -/
def blanks? (s : Text) : Option Text :=
  let r := s.drop (blankRun s)
  if (lineEnd? r).isSome then none else some r

def attribute? (s : Text) : Option Text :=
  match s with
  | [] => none
  | c :: _ =>
      if c.isAlpha || c == '_' || c == ':' then
        let after := s.dropWhile isAttributeChar
        match blanks? after with
        | some ('=' :: r) => (blanks? r).bind value?
        | some _ => some after
        | none => none
      else none

/-- The rest behind the attributes of an opening tag, each of which needs a blank before it;
`fuel` bounds their number. -/
def attributes? : Nat → Text → Option Text
  | 0, _ => none
  | fuel + 1, s =>
      match blanks? s with
      | none => none
      | some ('/' :: r) => some ('/' :: r)
      | some ('>' :: r) => some ('>' :: r)
      | some r => if r.length = s.length then none else (attribute? r).bind (attributes? fuel)

/-- The rest behind a complete opening or closing tag on one line. -/
def tag? (s : Text) : Option Text :=
  let (closing, s) := match s with
    | '/' :: r => (true, r)
    | r => (false, r)
  match s with
  | [] => none
  | c :: _ =>
      if c.isAlpha then
        let after := s.dropWhile isNameChar
        let inside := if closing then some after else attributes? (after.length + 1) after
        match inside with
        | none => none
        | some r =>
            let r := r.drop (blankRun r)
            let r := match closing, r with
              | false, '/' :: t => t
              | _, t => t
            match r with
            | '>' :: t => some t
            | _ => none
      else none

def isLoneTag (s : Text) : Bool :=
  match tag? s with
  | some r => isBlankLine r
  | none => false

end Html

end Markdown

end Tidymark
