import Mathlib.Data.List.DropRight
import Tidymark.Proofs.Reflow.Rereading

/-!
# Tokens found in one pass

Tokens can be found in one pass over the characters of a text and their
offsets.  The pass knows the links that it is not past, where the present token
starts, and which token waits to learn whether the source breaks the line
behind it: that is settled when the next token starts.
-/

namespace Tidymark

/-! ## Offsets and spans -/

namespace Text

/-- The characters that start in a span, if the first of the text stands at `offset`. -/
def startingIn (span : Span) (offset : Nat) : Text → Text
  | [] => []
  | c :: s =>
      if span.start ≤ offset ∧ offset < span.stop then
        c :: startingIn span (offset + c.utf8Size) s
      else startingIn span (offset + c.utf8Size) s

def cutOut (s : Text) (span : Span) : Text := startingIn span 0 s

variable {span : Span} {offset : Nat} {s : Text}

theorem startingIn_append (span : Span) (offset : Nat) (s t : Text) :
    startingIn span offset (s ++ t) =
      startingIn span offset s ++ startingIn span (offset + byteSize s) t := by
  induction s generalizing offset with
  | nil => rfl
  | cons c s ih =>
      simp only [List.cons_append, startingIn, ih, byteSize, Nat.add_assoc]
      split <;> rfl

theorem startingIn_front (h : offset + byteSize s ≤ span.start) :
    startingIn span offset s = [] := by
  induction s generalizing offset with
  | nil => rfl
  | cons c s ih =>
      have hpos := c.utf8Size_pos
      rw [byteSize] at h
      rw [startingIn, if_neg (by omega), ih (by omega)]

theorem startingIn_rear (h : span.stop ≤ offset) : startingIn span offset s = [] := by
  induction s generalizing offset with
  | nil => rfl
  | cons c s ih => rw [startingIn, if_neg (by omega), ih (by omega)]

theorem startingIn_inside (hstart : span.start ≤ offset) (hstop : offset + byteSize s ≤ span.stop) :
    startingIn span offset s = s := by
  induction s generalizing offset with
  | nil => rfl
  | cons c s ih =>
      have hpos := c.utf8Size_pos
      rw [byteSize] at hstop
      rw [startingIn, if_pos (by omega), ih (by omega) (by omega)]

/-- What a span cuts out of a text is the text of the span. -/
theorem cutOut_of_cuts {part : Text} (h : span.Cuts s part) : cutOut s span = part := by
  obtain ⟨front, rear, rfl, rfl⟩ := h
  rw [cutOut, startingIn_append, startingIn_append, startingIn_front (by simp),
    startingIn_inside (by simp) (by simp), startingIn_rear (by simp)]
  simp

end Text

namespace Marked

def size (ms : List Marked) : Nat := Text.byteSize (ms.map (·.char))

@[simp] theorem size_nil : size [] = 0 := rfl

@[simp] theorem size_cons (m : Marked) (ms : List Marked) :
    size (m :: ms) = m.char.utf8Size + size ms := rfl

@[simp] theorem size_append (ms ns : List Marked) : size (ms ++ ns) = size ms + size ns := by
  simp [size]

end Marked

/-! ## The pass -/

namespace TokenScan

open Token (endsEscaped)
open Marked (separates size)

/-- A token where it stands, and whether the source breaks the line after it. -/
structure Found where
  span : Span
  hardBreak : Bool
  deriving DecidableEq, Repr

def Found.token (s : Text) (found : Found) : Token := ⟨s.cutOut found.span, found.hardBreak⟩

/-- What is known between two characters: the tokens that have ended, the offset at which the
present one starts, which of the others waits for it, and whether a line feed was seen since. -/
structure State where
  found : List Found
  start : Option Nat
  pending : Option Nat
  sawBreak : Bool

namespace State

def close (offset : Nat) (state : State) : State :=
  match state.start with
  | some start =>
      ⟨state.found ++ [⟨⟨start, offset⟩, false⟩], none, some state.found.length, false⟩
  | none => state

/-- The token that waits breaks its line if a line feed was seen behind it and it ends in an odd
number of backslashes. -/
def settle (s : Text) (state : State) : State :=
  match state.pending with
  | some i =>
      { state with
        pending := none
        found := state.found.modify i fun found =>
          { found with hardBreak := state.sawBreak && endsEscaped (s.cutOut found.span) } }
  | none => state

def begin (s : Text) (offset : Nat) (state : State) : State :=
  { state.settle s with start := some offset }

def pass (gap : List Marked) (state : State) : State :=
  { state with sawBreak := state.sawBreak || gap.any (·.char == '\n') }

/-- A blank outside links ends a token, any other character starts one or belongs to it. -/
def step (s : Text) (offset : Nat) (m : Marked) (state : State) : State :=
  if m.separates then (state.close offset).pass [m]
  else
    match state.start with
    | some _ => state
    | none => state.begin s offset

def finish (stop : Nat) (state : State) : List Found :=
  match state.start with
  | some start => state.found ++ [⟨⟨start, stop⟩, false⟩]
  | none => state.found

end State

/-- The tokens of a text `s` of which the last argument is left, with the links that the pass is not
past. -/
def scanFrom (s : Text) (links : List Span) (state : State) (offset : Nat) : Text → List Found
  | [] => state.finish offset
  | c :: rest =>
      let links := links.dropWhile (·.stop ≤ offset)
      let linked := links.head?.any (·.start ≤ offset)
      scanFrom s links (state.step s offset ⟨c, linked⟩) (offset + c.utf8Size) rest

/-- The tokens of a text. -/
def scan (s : Text) : List Found :=
  scanFrom s (Link.pattern.ranges s) ⟨[], none, none, false⟩ 0 s

/-! ## Links from left to right -/

/-- The characters that are left, marked by the links that are left. -/
def marksFrom (links : List Span) (offset : Nat) : Text → List Marked
  | [] => []
  | c :: rest =>
      let links := links.dropWhile (·.stop ≤ offset)
      ⟨c, links.head?.any (·.start ≤ offset)⟩ :: marksFrom links (offset + c.utf8Size) rest

/-- The pass over marked characters. -/
def readFrom (s : Text) (state : State) (offset : Nat) : List Marked → List Found
  | [] => state.finish offset
  | m :: rest => readFrom s (state.step s offset m) (offset + m.char.utf8Size) rest

/-- Marks can be made beforehand. -/
theorem scanFrom_eq (s : Text) (links : List Span) (state : State) (offset : Nat) (rest : Text) :
    scanFrom s links state offset rest = readFrom s state offset (marksFrom links offset rest) := by
  induction rest generalizing links state offset with
  | nil => rfl
  | cons c rest ih => exact ih _ _ _

theorem marksFrom_dropWhile (links : List Span) (offset : Nat) (rest : Text) :
    marksFrom (links.dropWhile (·.stop ≤ offset)) offset rest = marksFrom links offset rest := by
  cases rest with
  | nil => rfl
  | cons c rest => rw [marksFrom, marksFrom, List.dropWhile_idempotent]

theorem marksFrom_plain {links : List Span} {offset : Nat} (x rest : Text)
    (hlinks : ∀ link ∈ links, offset + Text.byteSize x ≤ link.start ∧ link.start < link.stop) :
    marksFrom links offset (x ++ rest) =
      x.map (⟨·, false⟩) ++ marksFrom links (offset + Text.byteSize x) rest := by
  induction x generalizing offset with
  | nil => rfl
  | cons c x ih =>
      have hpos := c.utf8Size_pos
      simp only [Text.byteSize, ← Nat.add_assoc] at hlinks ⊢
      have hahead : links.dropWhile (·.stop ≤ offset) = links ∧
          links.head?.any (·.start ≤ offset) = false := by
        cases links with
        | nil => exact ⟨rfl, rfl⟩
        | cons link links =>
            obtain ⟨hstart, hstop⟩ := hlinks link List.mem_cons_self
            simp only [List.dropWhile_cons, List.head?_cons, Option.any_some]
            simp
            omega
      simp only [List.cons_append, marksFrom, List.map_cons, hahead.1, hahead.2, ih hlinks]

theorem marksFrom_link {link : Span} (links : List Span) {offset : Nat} (x rest : Text)
    (hstart : link.start ≤ offset) (hstop : offset + Text.byteSize x ≤ link.stop) :
    marksFrom (link :: links) offset (x ++ rest) =
      x.map (⟨·, true⟩) ++ marksFrom (link :: links) (offset + Text.byteSize x) rest := by
  induction x generalizing offset with
  | nil => rfl
  | cons c x ih =>
      have hpos := c.utf8Size_pos
      simp only [Text.byteSize, ← Nat.add_assoc] at hstop ⊢
      have hinside : (link :: links).dropWhile (·.stop ≤ offset) = link :: links :=
        List.dropWhile_cons_of_neg (by simp; omega)
      simp only [List.cons_append, marksFrom, List.map_cons, hinside, List.head?_cons,
        Option.any_some, hstart, decide_true, ih (Nat.le_add_right_of_le hstart) hstop]

/-- No link is empty. -/
theorem start_lt_stop {link : Span} {offset : Nat} {ps : List (Piece Link)}
    (h : link ∈ Piece.spans Link.source offset ps) : link.start < link.stop := by
  induction ps generalizing offset with
  | nil => cases h
  | cons p ps ih =>
      cases p with
      | plain x => exact ih h
      | found l =>
          have hbytes : 0 < Text.byteSize l.source := Text.byteSize_pos (by simp [Link.source])
          rcases List.mem_cons.mp h with rfl | h
          · exact Nat.lt_add_of_pos_right hbytes
          · exact ih h

/-- The links of a text mark the characters that lie in links. -/
theorem marksFrom_spans (offset : Nat) (ps : List (Piece Link)) :
    marksFrom (Piece.spans Link.source offset ps) offset (Piece.textOf Link.source ps) =
      Marked.ofPieces ps := by
  induction ps generalizing offset with
  | nil => rfl
  | cons p ps ih =>
      cases p with
      | plain x =>
          have hlinks : ∀ link ∈ Piece.spans Link.source (offset + Text.byteSize x) ps,
              offset + Text.byteSize x ≤ link.start ∧ link.start < link.stop := by
            intro link hlink
            exact ⟨(Piece.pairwise_spans _ ps).2 link hlink, start_lt_stop hlink⟩
          simp only [Piece.textOf, Piece.text, Piece.spans, Marked.ofPieces]
          rw [marksFrom_plain x _ hlinks, ih]
      | found l =>
          simp only [Piece.textOf, Piece.text, Piece.spans, Marked.ofPieces]
          rw [marksFrom_link _ l.source _ (by simp) (by simp), ← marksFrom_dropWhile,
            List.dropWhile_cons_of_pos (by simp), marksFrom_dropWhile, ih]

theorem marksFrom_ranges (s : Text) : marksFrom (Link.pattern.ranges s) 0 s = Marked.ofText s := by
  have hmarks := marksFrom_spans 0 (Link.pattern.pieces s)
  have htext : Piece.textOf Link.source (Link.pattern.pieces s) = s := Link.pattern.textOf_pieces s
  rwa [htext] at hmarks

/-! ## Gaps and words -/

variable {s : Text} {offset : Nat} {state : State} {front gap word rest ms : List Marked}
  {found : List Found}

theorem readFrom_nil : readFrom s state offset [] = state.finish offset := by
  rfl

theorem readFrom_cons (m : Marked) :
    readFrom s state offset (m :: rest) =
      readFrom s (state.step s offset m) (offset + m.char.utf8Size) rest := by
  rfl

theorem State.close_of_none (h : state.start = none) (offset : Nat) :
    state.close offset = state := by
  simp [close, h]

theorem State.pass_pass (gap gap' : List Marked) (state : State) :
    (state.pass gap).pass gap' = state.pass (gap ++ gap') := by
  simp [pass, Bool.or_assoc]

theorem readFrom_gap (hgap : ∀ m ∈ gap, m.separates = true) (hstart : state.start = none)
    (offset : Nat) (rest : List Marked) :
    readFrom s state offset (gap ++ rest) =
      readFrom s (state.pass gap) (offset + size gap) rest := by
  induction gap generalizing state offset with
  | nil => simp [State.pass]
  | cons m gap ih =>
      rw [List.forall_mem_cons] at hgap
      have hstep : state.step s offset m = state.pass [m] := by
        simp [State.step, hgap.1, State.close_of_none hstart]
      have hpassed : (state.pass [m]).start = none := hstart
      rw [List.cons_append, readFrom_cons, hstep, ih hgap.2 hpassed, State.pass_pass,
        Marked.size_cons, Nat.add_assoc, List.singleton_append]

theorem readFrom_word (hword : ∀ m ∈ word, m.separates = false) {start : Nat}
    (hstart : state.start = some start) (offset : Nat) (rest : List Marked) :
    readFrom s state offset (word ++ rest) = readFrom s state (offset + size word) rest := by
  induction word generalizing offset with
  | nil => rfl
  | cons m word ih =>
      rw [List.forall_mem_cons] at hword
      have hstep : state.step s offset m = state := by
        simp [State.step, hword.1, hstart]
      rw [List.cons_append, readFrom_cons, hstep, ih hword.2, Marked.size_cons, Nat.add_assoc]

theorem readFrom_begin (hne : word ≠ []) (hword : ∀ m ∈ word, m.separates = false)
    (hstart : state.start = none) (offset : Nat) (rest : List Marked) :
    readFrom s state offset (word ++ rest) =
      readFrom s (state.begin s offset) (offset + size word) rest := by
  obtain ⟨m, word, rfl⟩ := List.exists_cons_of_ne_nil hne
  rw [List.forall_mem_cons] at hword
  have hstep : state.step s offset m = state.begin s offset := by
    simp [State.step, hword.1, hstart]
  rw [List.cons_append, readFrom_cons, hstep, readFrom_word hword.2 rfl, Marked.size_cons,
    Nat.add_assoc]

theorem readFrom_close (hstop : ∀ m, rest.head? = some m → m.separates = true) (state : State)
    (offset : Nat) :
    readFrom s state offset rest = readFrom s (state.close offset) offset rest := by
  cases hstart : state.start with
  | none => rw [State.close_of_none hstart]
  | some start =>
      have hended : (state.close offset).start = none := by
        simp [State.close, hstart]
      cases rest with
      | nil => simp [readFrom_nil, State.finish, State.close, hstart]
      | cons m rest =>
          have hstep : state.step s offset m = (state.close offset).step s offset m := by
            simp [State.step, hstop m rfl, State.close_of_none hended]
          rw [readFrom_cons, readFrom_cons, hstep]

theorem head?_word (hne : word ≠ []) (hword : ∀ m ∈ word, m.separates = false)
    (rest : List Marked) : ∀ m, (word ++ rest).head? = some m → m.separates = false := by
  obtain ⟨k, word, rfl⟩ := List.exists_cons_of_ne_nil hne
  rintro _ ⟨⟩
  exact hword k List.mem_cons_self

theorem dropWhile_gap (hgap : ∀ m ∈ gap, m.separates = true) (hne : word ≠ [])
    (hword : ∀ m ∈ word, m.separates = false) (rest : List Marked) :
    (gap ++ (word ++ rest)).dropWhile separates = word ++ rest :=
  dropWhile_append_of_stop hgap (head?_word hne hword rest)

theorem takeWhile_gap (hgap : ∀ m ∈ gap, m.separates = true) (hne : word ≠ [])
    (hword : ∀ m ∈ word, m.separates = false) (rest : List Marked) :
    (gap ++ (word ++ rest)).takeWhile separates = gap :=
  takeWhile_append_of_stop hgap (head?_word hne hword rest)

theorem cutOut_word (hs : s = (front ++ (gap ++ (word ++ rest))).map (·.char)) :
    s.cutOut ⟨size (front ++ gap), size (front ++ gap ++ word)⟩ = word.map (·.char) := by
  apply Text.cutOut_of_cuts
  refine ⟨(front ++ gap).map (·.char), rest.map (·.char), by simp [hs], ?_⟩
  rw [← List.map_append]
  rfl

/-- Whether the source breaks the line between a word and the next token. -/
def breaksBetween (word rest : List Marked) : Bool :=
  !(rest.dropWhile separates).isEmpty && (rest.takeWhile separates).any (·.char == '\n') &&
    endsEscaped (word.map (·.char))

/-- The last characters of some marked ones are cut into gaps and words, and the words are the
tokens. -/
inductive Parted : List Marked → List Marked → List Found → Prop where
  | trail {front trail : List Marked} (htrail : ∀ m ∈ trail, m.separates = true) :
      Parted front trail []
  | word {front gap word rest : List Marked} {found : List Found}
      (hgap : ∀ m ∈ gap, m.separates = true) (hne : word ≠ [])
      (hword : ∀ m ∈ word, m.separates = false)
      (hstop : ∀ m, rest.head? = some m → m.separates = true)
      (h : Parted (front ++ gap ++ word) rest found) :
      Parted front (gap ++ (word ++ rest))
        (⟨⟨size (front ++ gap), size (front ++ gap ++ word)⟩, breaksBetween word rest⟩ :: found)

theorem exists_parted (front ms : List Marked) : ∃ found, Parted front ms found := by
  induction htokens : Token.ofMarked ms generalizing front ms with
  | nil => exact ⟨[], .trail (Token.ofMarked_eq_nil_iff.mp htokens)⟩
  | cons token tokens ih =>
      obtain ⟨word, rest, hsplit, hne, hword, hstop, -, hrest⟩ :=
        Token.exists_of_ofMarked_cons htokens
      have hgap : ∀ m ∈ ms.takeWhile separates, m.separates = true :=
        fun m hm => List.mem_takeWhile_imp hm
      obtain ⟨found, hfound⟩ := ih (front ++ ms.takeWhile separates ++ word) rest hrest
      have hparted := Parted.word hgap hne hword hstop hfound
      rw [← hsplit, List.takeWhile_append_dropWhile] at hparted
      exact ⟨_, hparted⟩

/-- The tokens that have ended, when these characters are left: the one that waits is settled if
another one follows. -/
def State.settledBy (s : Text) (ms : List Marked) (state : State) : List Found :=
  if (ms.dropWhile separates).isEmpty then state.found
  else ((state.pass (ms.takeWhile separates)).settle s).found

/-- A token that has just ended breaks its line if the source does so behind it. -/
theorem State.settledBy_close {start : Nat} (hstart : state.start = some start)
    (hcut : s.cutOut ⟨start, offset⟩ = word.map (·.char)) (rest : List Marked) :
    (state.close offset).settledBy s rest =
      state.found ++ [⟨⟨start, offset⟩, breaksBetween word rest⟩] := by
  have hmodify (f : Found → Found) :
      (state.found ++ [Found.mk ⟨start, offset⟩ false]).modify state.found.length f =
        state.found ++ [f ⟨⟨start, offset⟩, false⟩] :=
    List.modifyTailIdx_add _ 0 state.found _
  unfold settledBy breaksBetween
  split
  · next hnone => simp [close, hstart, hnone]
  · next hnext => simp [close, hstart, pass, settle, hmodify, hcut, hnext]

/-- What the pass finds in the characters that are left are their words. -/
theorem Parted.readFrom_eq (h : Parted front ms found) (hs : s = (front ++ ms).map (·.char))
    (hstart : state.start = none) :
    readFrom s state (size front) ms = state.settledBy s ms ++ found := by
  induction h generalizing state with
  | @trail front trail htrail =>
      have hnone : trail.dropWhile separates = [] := List.dropWhile_eq_nil_iff.mpr htrail
      have hread := readFrom_gap (s := s) htrail hstart (size front) []
      rw [List.append_nil] at hread
      simp [hread, readFrom_nil, State.finish, State.pass, hstart, State.settledBy, hnone]
  | @word front gap word rest found hgap hne hword hstop _ ih =>
      have hcut := cutOut_word hs
      have hpassed : (state.pass gap).start = none := hstart
      have hsettled : state.settledBy s (gap ++ (word ++ rest)) =
          ((state.pass gap).begin s (size (front ++ gap))).found := by
        simp [State.settledBy, State.begin, dropWhile_gap hgap hne hword,
          takeWhile_gap hgap hne hword, hne]
      calc readFrom s state (size front) (gap ++ (word ++ rest))
          = readFrom s (state.pass gap) (size (front ++ gap)) (word ++ rest) := by
            rw [readFrom_gap hgap hstart, ← Marked.size_append]
        _ = readFrom s ((state.pass gap).begin s (size (front ++ gap)))
              (size (front ++ gap ++ word)) rest := by
            rw [readFrom_begin hne hword hpassed, ← Marked.size_append]
        _ = (((state.pass gap).begin s (size (front ++ gap))).close
              (size (front ++ gap ++ word))).settledBy s rest ++ found := by
            rw [readFrom_close hstop]
            exact ih (by simp [hs]) rfl
        _ = state.settledBy s (gap ++ (word ++ rest)) ++
              (⟨⟨size (front ++ gap), size (front ++ gap ++ word)⟩, breaksBetween word rest⟩ ::
                found) := by
            rw [State.settledBy_close rfl hcut, hsettled, List.append_assoc,
              List.singleton_append]

/-- The pass finds the words of a text. -/
theorem parted_scan (s : Text) : Parted [] (Marked.ofText s) (scan s) := by
  obtain ⟨found, hfound⟩ := exists_parted [] (Marked.ofText s)
  have hs : s = (([] : List Marked) ++ Marked.ofText s).map (·.char) := (Marked.chars_ofText s).symm
  have hscan : scan s = found := by
    rw [scan, scanFrom_eq, marksFrom_ranges]
    refine (hfound.readFrom_eq hs rfl).trans ?_
    simp [State.settledBy, State.settle, State.pass]
  rwa [hscan]

end TokenScan

end Tidymark
