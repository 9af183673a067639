import Tidymark.Yaml.Plain
import Tidymark.Yaml.Token

/-!
# YAML

Reading a YAML text of one document as a settings value.
-/

namespace Tidymark

namespace Yaml

abbrev Anchors := List (Text × Value)

namespace Anchors

def get? (anchors : Anchors) (name : Text) : Option Value := anchors.reverse.lookup name

/-- Name a value that is not known yet.  As long as it is not, it has no reading. -/
def announce (anchors : Anchors) : Option Text → Anchors
  | none => anchors
  | some name => anchors ++ [(name, .scalar {})]

def settle (anchors : Anchors) (n : Nat) (v : Value) : Option Text → Anchors
  | none => anchors
  | some name => anchors.set n (name, v)

end Anchors

/-- What has been read: values by name, and the tokens that follow. -/
structure Rest where
  anchors : Anchors
  tokens : List Token

namespace Rest

def tail (r : Rest) : Rest := { r with tokens := r.tokens.tail }

end Rest

/-- What precedes a node: an anchor and a tag, in either order. -/
structure Properties where
  anchor : Option Text := none
  tag : Option (Text × Text) := none

def properties : List Token → Properties × List Token
  | .anchor a :: .tag h s :: ts => (⟨some a, some (h, s)⟩, ts)
  | .anchor a :: ts => (⟨some a, none⟩, ts)
  | .tag h s :: .anchor a :: ts => (⟨some a, some (h, s)⟩, ts)
  | .tag h s :: ts => (⟨none, some (h, s)⟩, ts)
  | ts => (⟨none, none⟩, ts)

/-- A tag in full.  A handle without an expansion is refused. -/
def expandTag? (handles : List (Text × Text)) : Option (Text × Text) → Option (Option Text)
  | none => some none
  | some ([], suffix) => some (some suffix)
  | some (handle, suffix) => (handles.lookup handle).map fun expansion => some (expansion ++ suffix)

def blank : Value := .scalar (plainScalar [])

def keyText : Value → Option Text
  | .scalar s => s.text
  | _ => none

/-- Whether tokens start with what a node can hold; `inBlock` if indentation may open it, `bare`
if a list may start without being indented deeper. -/
def opensContent (inBlock bare : Bool) : List Token → Bool
  | .scalar _ _ :: _ => true
  | .openBracket :: _ => true
  | .openBrace :: _ => true
  | .dash :: _ => bare
  | .openList :: _ => inBlock
  | .openMap :: _ => inBlock
  | _ => false

def endsIn (ends : List Token) (tokens : List Token) : Bool :=
  match tokens with
  | [] => true
  | t :: _ => ends.contains t

mutual

/-- Read a node; `fuel` bounds the number of steps. -/
def node? (handles : List (Text × Text)) :
    Nat → (inBlock bare : Bool) → Rest → Option (Value × Rest)
  | 0, _, _, _ => none
  | fuel + 1, inBlock, bare, r =>
      match r.tokens with
      | .alias name :: ts => (r.anchors.get? name).map fun v => (v, { r with tokens := ts })
      | _ =>
          let (given, tokens) := properties r.tokens
          match expandTag? handles given.tag with
          | none => none
          | some tag =>
              let n := r.anchors.length
              let announced : Rest := ⟨r.anchors.announce given.anchor, tokens⟩
              let found :=
                if opensContent inBlock bare tokens then
                  content? handles fuel tag announced
                else if given.anchor.isSome || given.tag.isSome then
                  some (.scalar (ofKind tag (plainScalar [])), announced)
                else none
              found.map fun (v, r) => (v, { r with anchors := r.anchors.settle n v given.anchor })

def content? (handles : List (Text × Text)) :
    Nat → (tag : Option Text) → Rest → Option (Value × Rest)
  | 0, _, _ => none
  | fuel + 1, tag, r =>
      match r.tokens with
      | .scalar t plain :: ts =>
          let s : Scalar := if plain then plainScalar t else { text := some t }
          some (.scalar (ofKind tag s), { r with tokens := ts })
      | .openBracket :: _ => (flowList? handles fuel true r.tail).map fun (vs, r) => (.list vs, r)
      | .openBrace :: _ => (flowMap? handles fuel true r.tail).map fun (es, r) => (.map es, r)
      | .dash :: _ => (bareList? handles fuel r).map fun (vs, r) => (.list vs, r)
      | .openList :: _ => (blockList? handles fuel r.tail).map fun (vs, r) => (.list vs, r)
      | .openMap :: _ => (blockMap? handles fuel r.tail).map fun (es, r) => (.map es, r)
      | _ => none

def optional? (handles : List (Text × Text)) :
    Nat → (inBlock bare : Bool) → (ends : List Token) → Rest → Option (Value × Rest)
  | 0, _, _, _, _ => none
  | fuel + 1, inBlock, bare, ends, r =>
      if endsIn ends r.tokens then some (blank, r) else node? handles fuel inBlock bare r

def valueBehind? (handles : List (Text × Text)) :
    Nat → (inBlock : Bool) → (ends : List Token) → Rest → Option (Value × Rest)
  | 0, _, _, _ => none
  | fuel + 1, inBlock, ends, r =>
      match r.tokens with
      | .colon :: _ => optional? handles fuel inBlock inBlock ends r.tail
      | _ => some (blank, r)

def blockList? (handles : List (Text × Text)) : Nat → Rest → Option (List Value × Rest)
  | 0, _ => none
  | fuel + 1, r =>
      match r.tokens with
      | .dash :: _ => do
          let (v, r) ← optional? handles fuel true false [.dash, .close] r.tail
          let (vs, r) ← blockList? handles fuel r
          return (v :: vs, r)
      | .close :: _ => some ([], r.tail)
      | _ => none

/-- Read the elements of a list that is not indented deeper than the map around it. -/
def bareList? (handles : List (Text × Text)) : Nat → Rest → Option (List Value × Rest)
  | 0, _ => none
  | fuel + 1, r =>
      match r.tokens with
      | .dash :: _ => do
          let (v, r) ← optional? handles fuel true false [.dash, .key, .colon, .close] r.tail
          let (vs, r) ← bareList? handles fuel r
          return (v :: vs, r)
      | _ => some ([], r)

def blockMap? (handles : List (Text × Text)) :
    Nat → Rest → Option (List (Option Text × Value) × Rest)
  | 0, _ => none
  | fuel + 1, r =>
      match r.tokens with
      | .close :: _ => some ([], r.tail)
      | .key :: _ => do
          let (k, r) ← optional? handles fuel true true [.key, .colon, .close] r.tail
          let (v, r) ← valueBehind? handles fuel true [.key, .colon, .close] r
          let (es, r) ← blockMap? handles fuel r
          return ((keyText k, v) :: es, r)
      | _ => none

def flowList? (handles : List (Text × Text)) :
    Nat → (first : Bool) → Rest → Option (List Value × Rest)
  | 0, _, _ => none
  | fuel + 1, first, r =>
      match r.tokens with
      | .closeBracket :: _ => some ([], r.tail)
      | t :: ts => do
          let r ← if first then some r
            else if t = .comma then some { r with tokens := ts }
            else none
          match r.tokens with
          | .closeBracket :: _ => return ([], r.tail)
          | .key :: _ =>
              let (k, r) ← optional? handles fuel false false [.colon, .comma, .closeBracket] r.tail
              let (v, r) ← valueBehind? handles fuel false [.comma, .closeBracket] r
              let (vs, r) ← flowList? handles fuel false r
              return (.map [(keyText k, v)] :: vs, r)
          | _ =>
              let (v, r) ← node? handles fuel false false r
              let (vs, r) ← flowList? handles fuel false r
              return (v :: vs, r)
      | [] => none

def flowMap? (handles : List (Text × Text)) :
    Nat → (first : Bool) → Rest → Option (List (Option Text × Value) × Rest)
  | 0, _, _ => none
  | fuel + 1, first, r =>
      match r.tokens with
      | .closeBrace :: _ => some ([], r.tail)
      | t :: ts => do
          let r ← if first then some r
            else if t = .comma then some { r with tokens := ts }
            else none
          match r.tokens with
          | .closeBrace :: _ => return ([], r.tail)
          | .key :: _ =>
              let (k, r) ← optional? handles fuel false false [.colon, .comma, .closeBrace] r.tail
              let (v, r) ← valueBehind? handles fuel false [.comma, .closeBrace] r
              let (es, r) ← flowMap? handles fuel false r
              return ((keyText k, v) :: es, r)
          | _ =>
              let (k, r) ← node? handles fuel false false r
              let (es, r) ← flowMap? handles fuel false r
              return ((keyText k, blank) :: es, r)
      | [] => none

end

/-- The handles of tags, given by directives and by default, and the tokens behind the
directives.  A handle or a version is given once at most. -/
def directives? (version : Bool) (given : List (Text × Text)) :
    List Token → Option (List (Text × Text) × List Token)
  | .version major minor :: ts =>
      if version || Text.ofDigits? 10 major != some 1 ||
          !(Text.ofDigits? 10 minor == some 1 || Text.ofDigits? 10 minor == some 2) then none
      else directives? true given ts
  | .handle handle expansion :: ts =>
      if (given.lookup handle).isSome then none
      else directives? version ((handle, expansion) :: given) ts
  | ts =>
      some (given ++ [(['!'], ['!']), ("!!".toList, "tag:yaml.org,2002:".toList)], ts)

def isDirective : Token → Bool
  | .version _ _ => true
  | .handle _ _ => true
  | _ => false

/-- The value of the only document that tokens describe; without a document nothing is given. -/
def document? (tokens : List Token) : Option Value := do
  match tokens with
  | [] => return blank
  | t :: _ =>
      let (handles, ts) ← directives? false [] tokens
      let ts ← match ts with
        | .documentStart :: ts => some ts
        | _ => if isDirective t then none else some ts
      let explicit := ts.length < tokens.length
      let (v, r) ← if explicit && startsOutside ts then some (blank, ⟨[], ts⟩)
        else node? handles (8 * ts.length + 8) true false ⟨[], ts⟩
      if (r.tokens.dropWhile (· == .documentEnd)).isEmpty then return v else none
where
  startsOutside : List Token → Bool
    | [] => true
    | t :: _ => isDirective t || t == .documentStart || t == .documentEnd

def isAllowed (c : Char) : Bool :=
  let n := c.toNat
  n == 0x09 || n == 0x0A || n == 0x0D || (0x20 ≤ n && n ≤ 0x7E) || n == 0x85 ||
    (0xA0 ≤ n && n ≤ 0xFFFD && n != 0xFEFF) || 0x10000 ≤ n

/-- What YAML decides about values: a style is never given as a map, and an empty scalar stands
for an empty collection. -/
def dialect : Dialect where
  allowsBehindStyle := fun _ => false
  blankCollections := true
  surplus := false

end Yaml

/-- The value of a YAML text.  A byte order mark in front is passed over. -/
def Value.ofYaml? (s : Text) : Option Value :=
  let s := match s with
    | '\uFEFF' :: r => r
    | r => r
  if s.all Yaml.isAllowed then (Yaml.Token.ofText? s).bind Yaml.document? else none

end Tidymark
