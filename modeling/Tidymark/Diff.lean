import Tidymark.Text

/-!
# Differences between texts

A difference is a list of edits that keep, delete and insert lines: without
the insertions it is one text, and without the deletions the other.  The edits
come from a shortest path through both texts, found from both ends.  Deletions
stay where that path has them, insertions are shifted as far down as they go,
and edits of one kind that meet are joined.
-/

namespace Tidymark

inductive EditKind where
  | keep
  | delete
  | insert
  deriving DecidableEq, Repr

structure Edit where
  kind : EditKind
  lines : List Text
  deriving DecidableEq, Repr

namespace Diff

/-- The lines of a text with what ends them: a line feed, a carriage return, or both. -/
def lines : Text → List Text
  | [] => []
  | '\r' :: '\n' :: s => ['\r', '\n'] :: lines s
  | c :: s => if c = '\n' ∨ c = '\r' then [c] :: lines s else Text.consFirst c (lines s)

def commonStart : List Text → List Text → Nat
  | a :: as, b :: bs => if a = b then commonStart as bs + 1 else 0
  | _, _ => 0

def commonEnd (as bs : List Text) : Nat := commonStart as.reverse bs.reverse

/-! Where the two searches meet -/

/-- A run of kept lines on a diagonal: the diagonal, where the run starts in the first text, and
where it ends. -/
structure Reach where
  diagonal : Int
  start : Nat
  stop : Nat

def second (diagonal : Int) (first : Nat) : Int := first - diagonal

/-- The places to start from on diagonals `d`, `d - 2`, …, given how far the search got on the
diagonals between in the step before. -/
def starts : List Nat → List Nat
  | [] => [0]
  | farthest :: rest => (farthest + 1) :: between farthest rest
where
  between (above : Nat) : List Nat → List Nat
    | [] => [above]
    | below :: rest => (if below < above then above else below + 1) :: between below rest

def extend (old new : List Text) (diagonal : Int) (first : Nat) : Reach :=
  let y := second diagonal first
  let run := if y < 0 then 0 else commonStart (old.drop first) (new.drop y.toNat)
  ⟨diagonal, first, first + run⟩

def step (old new : List Text) (d : Nat) (before : List Nat) : List Reach :=
  ((starts before).zipIdx).map fun (first, i) => extend old new ((d : Int) - 2 * i) first

/-- How far the other search got, within `d` diagonals, on the diagonal that meets this one. -/
def opposite? (d : Nat) (delta diagonal : Int) (others : List Nat) : Option Nat :=
  let k := delta - diagonal
  if k.natAbs ≤ d then others[((d - k) / 2).toNat]? else none

def meeting? (n d : Nat) (delta : Int) (others : List Nat) (runs : List Reach) : Option Reach :=
  runs.find? fun r =>
    match opposite? d delta r.diagonal others with
    | some x => n ≤ r.stop + x
    | none => false

/-- A place in both texts on a shortest path between them; `fuel` bounds the number of steps, of
which `d` have been made. -/
def middle? (old new : List Text) :
    (fuel d : Nat) → (forward backward : List Nat) → Option (Nat × Nat)
  | 0, _, _, _ => none
  | fuel + 1, d, forward, backward =>
      let n := old.length
      let m := new.length
      let delta : Int := n - m
      let ahead := step old new d forward
      let met := if delta % 2 ≠ 0 ∧ d ≠ 0 then meeting? n (d - 1) delta backward ahead else none
      match met with
      | some r => some (r.start, (second r.diagonal r.start).toNat)
      | none =>
          let back := step old.reverse new.reverse d backward
          let met := if delta % 2 = 0 then meeting? n d delta (ahead.map (·.stop)) back else none
          match met with
          | some r => some (n - r.stop, m - (second r.diagonal r.stop).toNat)
          | none => middle? old new fuel (d + 1) (ahead.map (·.stop)) (back.map (·.stop))

def edit (kind : EditKind) (ls : List Text) : List Edit := if ls.isEmpty then [] else [⟨kind, ls⟩]

/-- Edits between two lists of lines, split where the searches meet; `fuel` bounds the depth. -/
def editsWithin : Nat → List Text → List Text → List Edit
  | 0, old, new => edit .delete old ++ edit .insert new
  | fuel + 1, old, new =>
      let start := commonStart old new
      let oldRest := old.drop start
      let newRest := new.drop start
      let stop := commonEnd oldRest newRest
      let oldInner := oldRest.take (oldRest.length - stop)
      let newInner := newRest.take (newRest.length - stop)
      let inner :=
        if oldInner.isEmpty || newInner.isEmpty then edit .delete oldInner ++ edit .insert newInner
        else
          match middle? oldInner newInner ((oldInner.length + newInner.length + 1) / 2 + 1) 0 [] []
            with
          | some (x, y) =>
              editsWithin fuel (oldInner.take x) (newInner.take y) ++
                editsWithin fuel (oldInner.drop x) (newInner.drop y)
          | none => edit .delete oldInner ++ edit .insert newInner
      edit .keep (old.take start) ++ inner ++ edit .keep (oldRest.drop (oldRest.length - stop))

/-! Shifting -/

def consKept (ls : List Text) : List Edit → List Edit
  | ⟨.keep, more⟩ :: rest => ⟨.keep, ls ++ more⟩ :: rest
  | edits => ⟨.keep, ls⟩ :: edits

def snocKept (ls : List Text) : List Edit → List Edit
  | ⟨.keep, more⟩ :: rest => ⟨.keep, more ++ ls⟩ :: rest
  | edits => ⟨.keep, ls⟩ :: edits

/-- An edit among others: those before it, last first, and those behind it. -/
structure Focus where
  before : List Edit
  this : Edit
  behind : List Edit

/-- Shift an edit up past edits of the other kind and, when it inserts lines, past the kept lines
that equal its last ones, and join it with edits of its kind; `fuel` bounds the number of steps. -/
def shiftUp : Nat → Focus → Focus
  | 0, f => f
  | fuel + 1, f =>
      match f.before with
      | [] => f
      | ⟨kind, ls⟩ :: rest =>
          if kind = .keep then
            let n := if f.this.kind = .insert then commonEnd ls f.this.lines else 0
            let left := ls.take (ls.length - n)
            if n = 0 then if ls.isEmpty then shiftUp fuel { f with before := rest } else f
            else
              let shared := ls.drop (ls.length - n)
              let this := shared ++ f.this.lines.take (f.this.lines.length - n)
              shiftUp fuel
                ⟨edit .keep left ++ rest, { f.this with lines := this }, consKept shared f.behind⟩
          else if kind = f.this.kind then
            shiftUp fuel ⟨rest, { f.this with lines := ls ++ f.this.lines }, f.behind⟩
          else shiftUp fuel ⟨rest, f.this, ⟨kind, ls⟩ :: f.behind⟩

/-- Shift an edit down in the same way. -/
def shiftDown : Nat → Focus → Focus
  | 0, f => f
  | fuel + 1, f =>
      match f.behind with
      | [] => f
      | ⟨kind, ls⟩ :: rest =>
          if kind = .keep then
            let n := if f.this.kind = .insert then commonStart ls f.this.lines else 0
            let left := ls.drop n
            if n = 0 then if ls.isEmpty then shiftDown fuel { f with behind := rest } else f
            else
              let shared := ls.take n
              let this := f.this.lines.drop n ++ shared
              shiftDown fuel
                ⟨snocKept shared f.before, { f.this with lines := this }, edit .keep left ++ rest⟩
          else if kind = f.this.kind then
            shiftDown fuel ⟨f.before, { f.this with lines := f.this.lines ++ ls }, rest⟩
          else shiftDown fuel ⟨⟨kind, ls⟩ :: f.before, f.this, rest⟩

/-- The number of lines and edits, which bounds how far an edit can be shifted. -/
def extent (edits : List Edit) : Nat := edits.foldr (fun e n => e.lines.length + 1 + n) 0

def compactWithin (kind : EditKind) : Nat → (before behind : List Edit) → List Edit
  | 0, before, behind => before.reverse ++ behind
  | _ + 1, before, [] => before.reverse
  | fuel + 1, before, e :: behind =>
      if e.kind = kind then
        let size := extent before + extent (e :: behind)
        let f := shiftDown size (shiftUp size ⟨before, e, behind⟩)
        compactWithin kind fuel (f.this :: f.before) f.behind
      else compactWithin kind fuel (e :: before) behind

def compact (kind : EditKind) (edits : List Edit) : List Edit :=
  compactWithin kind (extent edits) [] edits

/-! Between kept lines, deletions before insertions -/

/-- The edits with deletions in front of the insertions next to them; `deleted` and `inserted`
are the lines since the last ones kept. -/
def ordered (deleted inserted : List Text) : List Edit → List Edit
  | [] => edit .delete deleted ++ edit .insert inserted
  | ⟨.keep, ls⟩ :: rest =>
      edit .delete deleted ++ edit .insert inserted ++ edit .keep ls ++ ordered [] [] rest
  | ⟨.delete, ls⟩ :: rest => ordered (deleted ++ ls) inserted rest
  | ⟨.insert, ls⟩ :: rest => ordered deleted (inserted ++ ls) rest

def edits (old new : Text) : List Edit :=
  let oldLines := lines old
  let newLines := lines new
  let found := editsWithin (oldLines.length + newLines.length + 1) oldLines newLines
  ordered [] [] (compact .insert (compact .delete found))

def sign : EditKind → Char
  | .keep => ' '
  | .delete => '-'
  | .insert => '+'

/-- A line of a difference.  A line that nothing ends is ended, and followed by an empty one. -/
def signed (kind : EditKind) (line : Text) : Text :=
  let ended := match line.getLast? with
    | some c => c == '\n' || c == '\r'
    | none => false
  sign kind :: line ++ if ended then [] else ['\n', '\n']

/-- The difference between two texts, each line behind a sign. -/
def render (old new : Text) : Text :=
  (edits old new).flatMap fun e => e.lines.flatMap (signed e.kind)

end Diff

end Tidymark
