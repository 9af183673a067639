import Tidymark.Reflow.Token

/-!
# Tokens that open a block

A line that starts with one of these tokens could be read as the start of a
list item, quote, heading, underline, thematic break, code fence or HTML
block instead of more of its paragraph.
-/

namespace Tidymark

namespace Token

def blockTags : List String :=
  ["address", "article", "aside", "base", "basefont", "blockquote", "body", "caption", "center",
    "col", "colgroup", "dd", "details", "dialog", "dir", "div", "dl", "dt", "fieldset",
    "figcaption", "figure", "footer", "form", "frame", "frameset", "h1", "h2", "h3", "h4", "h5",
    "h6", "head", "header", "hr", "html", "iframe", "legend", "li", "link", "main", "menu",
    "menuitem", "nav", "noframes", "ol", "optgroup", "option", "p", "param", "pre", "script",
    "search", "section", "style", "summary", "table", "tbody", "td", "textarea", "tfoot", "th",
    "thead", "title", "tr", "track", "ul"]

/-- Whether `s`, which follows an opening angle bracket, names a tag of an HTML block. -/
def opensTag (s : Text) : Bool :=
  let s := match s with
    | '/' :: r => r
    | r => r
  let name := s.takeWhile Char.isAlphanum
  let after := s.dropWhile Char.isAlphanum
  (after.isEmpty || ['>'].isPrefixOf after || ['/', '>'].isPrefixOf after) &&
    blockTags.any (fun tag => tag.toList == name.map Char.toLower)

def opensHtml (s : Text) : Bool :=
  ['!', '-', '-'].isPrefixOf s || ['?'].isPrefixOf s || "![CDATA[".toList.isPrefixOf s ||
    (match s with
      | '!' :: c :: _ => c.isAlpha
      | _ => false) ||
    opensTag s

/-- Whether a line that starts with this token could open a block. -/
def opensBlock (s : Text) : Bool :=
  s == ['-'] || s == ['+'] || s == ['*'] || s == ['_'] || s == ['1', '.'] || s == ['1', ')'] ||
    ['>'].isPrefixOf s ||
    (List.replicate 3 backtick).isPrefixOf s || (List.replicate 3 '~').isPrefixOf s ||
    (s.length ≤ 6 && s.all (· == '#')) ||
    s.all (· == '=') || s.all (· == '-') ||
    (3 ≤ s.length && (s.all (· == '*') || s.all (· == '_'))) ||
    (match s with
      | '<' :: r => opensHtml r
      | _ => false)

end Token

end Tidymark
