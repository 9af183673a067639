import Tidymark.Toml.Lexical
import Tidymark.Toml.Table

/-!
# TOML

Reading a TOML text as a settings value, line by line.
-/

namespace Tidymark

namespace Toml

def splitKey : List Text → Option (List Text × Text)
  | [] => none
  | [key] => some ([], key)
  | part :: rest => (splitKey rest).map fun (path, key) => (part :: path, key)

mutual

/-- Read a value; `depth` bounds the nesting and `fuel` the number of steps. -/
def value? (depth : Nat) : Nat → Text → Option (Value × Text)
  | 0, _ => none
  | fuel + 1, s =>
      match s, depth with
      | '[' :: _, 0 => none
      | '\x7b' :: _, 0 => none
      | '[' :: r, depth + 1 =>
          (elements? depth fuel r).map fun (values, r) => (.list values, r)
      | '\x7b' :: r, depth + 1 =>
          match skipBlanks r with
          | '\x7d' :: r => some (.map [], r)
          | r => (members? depth fuel [] r).map fun (entries, r) => (.map (entryValues entries), r)
      | s, _ => atom? s

def elements? (depth : Nat) : Nat → Text → Option (List Value × Text)
  | 0, _ => none
  | fuel + 1, s =>
      match skipGaps false s with
      | ']' :: r => some ([], r)
      | r => do
          let (v, r) ← value? depth fuel r
          match skipGaps false r with
          | ',' :: r =>
              let (values, r) ← elements? depth fuel r
              return (v :: values, r)
          | ']' :: r => return ([v], r)
          | _ => none

def members? (depth : Nat) : Nat → Entries → Text → Option (Entries × Text)
  | 0, _, _ => none
  | fuel + 1, entries, s => do
      let (entries, r) ← member? depth fuel entries s
      match skipBlanks r with
      | ',' :: r => members? depth fuel entries r
      | '\x7d' :: r => return (entries, r)
      | _ => none

def member? (depth : Nat) : Nat → Entries → Text → Option (Entries × Text)
  | 0, _, _ => none
  | fuel + 1, entries, s => do
      let (key, r) ← key? s
      let (path, key) ← splitKey key
      let r ← Text.after? ['='] r
      let (v, r) ← value? depth fuel (skipBlanks r)
      let entries ← entries.put path key v
      return (entries, r)

end

inductive Line where
  | blank
  | header (key : List Text)
  | rowHeader (key : List Text)
  | entry (path : List Text) (key : Text) (v : Value)

def line? (s : Text) : Option (Line × Text) :=
  match s with
  | [] => some (.blank, s)
  | '#' :: _ => some (.blank, s)
  | '\n' :: _ => some (.blank, s)
  | '\r' :: _ => some (.blank, s)
  | '[' :: '[' :: r => do
      let (key, r) ← key? r
      let r ← Text.after? "]]".toList r
      return (.rowHeader key, r)
  | '[' :: r => do
      let (key, r) ← key? r
      let r ← Text.after? [']'] r
      return (.header key, r)
  | _ => do
      let (key, r) ← key? s
      let (path, key) ← splitKey key
      let r ← Text.after? ['='] r
      let (v, r) ← value? nestingLimit (4 * s.length + 4) (skipBlanks r)
      return (.entry path key v, r)

/-- The table that a header gave last, and all entries. -/
structure Read where
  header : List Text
  entries : Entries

def Read.add? (read : Read) : Line → Option Read
  | .blank => some read
  | .header key => do
      let (path, last) ← splitKey key
      let entries ← read.entries.declare path last
      return ⟨key, entries⟩
  | .rowHeader key => do
      let (path, last) ← splitKey key
      let entries ← read.entries.extend path last
      return ⟨key, entries⟩
  | .entry path key v => do
      let entries ←
        read.entries.within .passage (fun _ inner => inner.put path key v) read.header .header
      return { read with entries := entries }

def lines? : Nat → Read → Text → Option Read
  | 0, _, _ => none
  | _ + 1, read, [] => some read
  | fuel + 1, read, s => do
      let (line, r) ← line? (skipBlanks s)
      let read ← read.add? line
      let r ← endLine? r
      lines? fuel read r

/-- What TOML decides about values: an empty collection may stand behind the name of a style,
and surplus elements of a section given as a list are passed over. -/
def dialect : Dialect where
  allowsBehindStyle := Value.isEmptyCollection
  blankCollections := false
  surplus := true

end Toml

/-- The value of a TOML text.  A byte order mark in front is passed over. -/
def Value.ofToml? (s : Text) : Option Value :=
  let s := match s with
    | '\uFEFF' :: r => r
    | r => r
  (Toml.lines? (s.length + 1) ⟨[], []⟩ s).map fun read => .map (Toml.entryValues read.entries)

end Tidymark
