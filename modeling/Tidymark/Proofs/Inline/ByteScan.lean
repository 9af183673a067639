import Tidymark.Proofs.Inline.CodeSpans
import Tidymark.Proofs.Text.Encoding
import Tidymark.Proofs.Text.Pieces

/-!
# Code spans found in bytes

The code spans of a text can be found in its bytes, with no regard to where
characters start.  Behind a backslash the scan steps over one byte, which may
be the first of several; since no other byte of those is that of a backtick or
a backslash, it is back in step before it matters.
-/

namespace Tidymark

namespace ByteScan

def tick : UInt8 := 0x60

def slash : UInt8 := 0x5C

def ticks (bs : Bytes) : Nat := (bs.takeWhile (· == tick)).length

/-- How many bytes stand in front of the first run of exactly `run` backticks. -/
def closing? (run : Nat) : Bytes → Option Nat
  | [] => none
  | b :: bs =>
      if b = tick then
        let n := ticks bs + 1
        if n = run then some 0 else (closing? run (bs.drop (n - 1))).map (n + ·)
      else (closing? run bs).map (1 + ·)
termination_by bs => bs.length
decreasing_by
  · simp only [List.length_drop, List.length_cons]; omega
  · simp

/-- The ranges of the code spans in some bytes of which the first stands at `offset`. -/
def scanFrom (offset : Nat) : Bytes → List Span
  | [] => []
  | b :: bs =>
      if b = slash then scanFrom (offset + 2) (bs.drop 1)
      else if b = tick then
        let n := ticks bs + 1
        match closing? n (bs.drop (n - 1)) with
        | some gap =>
            let stop := offset + n + gap + n
            ⟨offset, stop⟩ :: scanFrom stop (bs.drop (n - 1 + gap + n))
        | none => scanFrom (offset + n) (bs.drop (n - 1))
      else scanFrom (offset + 1) bs
termination_by bs => bs.length
decreasing_by
  all_goals simp only [List.length_drop, List.length_cons]; omega

/-- The ranges of the code spans in some bytes. -/
def scan (bs : Bytes) : List Span := scanFrom 0 bs

/-! ## The bytes of a text -/

theorem encode_delimiter (n : Nat) :
    Text.encode (CodeSpan.delimiter n) = List.replicate n tick := by
  induction n with
  | zero => rfl
  | succ n ih =>
      rw [CodeSpan.delimiter, List.replicate_succ, Text.encode_cons, ← CodeSpan.delimiter, ih]
      rfl

theorem byteSize_delimiter (n : Nat) : Text.byteSize (CodeSpan.delimiter n) = n := by
  rw [← Text.length_encode, encode_delimiter, List.length_replicate]

theorem tick_not_mem {c : Char} (hc : c ≠ backtick) : tick ∉ String.utf8EncodeChar c := by
  intro hmem
  obtain ⟨-, hnat⟩ := Utf8.eq_of_mem_utf8EncodeChar hmem (by decide)
  exact hc (Char.toNat_inj.mp hnat)

theorem slash_not_mem {c : Char} (hc : c ≠ '\\') : slash ∉ String.utf8EncodeChar c := by
  intro hmem
  obtain ⟨-, hnat⟩ := Utf8.eq_of_mem_utf8EncodeChar hmem (by decide)
  exact hc (Char.toNat_inj.mp hnat)

theorem head?_encode_ne {s : Text} (hs : s.head? ≠ some backtick) :
    (Text.encode s).head? ≠ some tick := by
  cases s with
  | nil => simp [Text.encode]
  | cons c s =>
      have hc : c ≠ backtick := by simpa using hs
      intro hhead
      rw [Text.encode_cons, List.head?_append_of_ne_nil _ (Utf8.utf8EncodeChar_ne_nil c)] at hhead
      exact tick_not_mem hc (List.mem_of_head? hhead)

theorem not_mem_of_cons {c : Char} {b : UInt8} {bs : Bytes}
    (h : String.utf8EncodeChar c = b :: bs) : tick ∉ bs ∧ slash ∉ bs := by
  have hnot {d : UInt8} (hlow : d.toNat < 0x80) : d ∉ bs := by
    intro hmem
    obtain ⟨hone, -⟩ := Utf8.eq_of_mem_utf8EncodeChar (h ▸ List.mem_cons_of_mem b hmem) hlow
    rw [h, List.cons.injEq] at hone
    rw [hone.2] at hmem
    cases hmem
  exact ⟨hnot (by decide), hnot (by decide)⟩

/-! ## Runs of backticks -/

theorem ticks_replicate_append (n : Nat) {bs : Bytes} (hbs : bs.head? ≠ some tick) :
    ticks (List.replicate n tick ++ bs) = n := by
  have hall : ∀ b ∈ List.replicate n tick, (b == tick) = true := by
    intro b hb
    rw [List.eq_of_mem_replicate hb, beq_self_eq_true]
  have hnone : bs.takeWhile (· == tick) = [] := by
    cases bs with
    | nil => rfl
    | cons b bs =>
        have hb : b ≠ tick := by simpa using hbs
        exact List.takeWhile_cons_of_neg (by simpa using hb)
  rw [ticks, List.takeWhile_append_of_pos hall, hnone, List.append_nil, List.length_replicate]

theorem drop_replicate_append (n : Nat) (bs : Bytes) :
    (List.replicate n tick ++ bs).drop n = bs := List.drop_left' List.length_replicate

theorem closing?_append (run : Nat) {bs : Bytes} (hbs : tick ∉ bs) (rest : Bytes) :
    closing? run (bs ++ rest) = (closing? run rest).map (bs.length + ·) := by
  induction bs with
  | nil => simp
  | cons b bs ih =>
      rw [List.mem_cons, not_or] at hbs
      rw [List.cons_append, closing?, if_neg (Ne.symm hbs.1), ih hbs.2, Option.map_map]
      congr 1
      funext n
      simp only [Function.comp_apply, List.length_cons]
      omega

theorem closing?_run (run : Nat) {n : Nat} (hn : n ≠ 0) {bs : Bytes}
    (hbs : bs.head? ≠ some tick) : closing? run (List.replicate n tick ++ bs) =
      if n = run then some 0 else (closing? run bs).map (n + ·) := by
  obtain ⟨n, rfl⟩ := Nat.exists_eq_succ_of_ne_zero hn
  rw [List.replicate_succ, List.cons_append, closing?, if_pos rfl]
  simp only [ticks_replicate_append n hbs, Nat.add_sub_cancel, drop_replicate_append]

/-- The run that closes a span is found in the bytes where it is found in the text. -/
theorem closing?_encode (run : Nat) (s : Text) : closing? run (Text.encode s) =
    (CodeSpan.splitAtRun? run s).map fun (a, _) => Text.byteSize a := by
  induction s using Text.runInduction backtick with
  | nil => rw [CodeSpan.splitAtRun?, Option.map_none, Text.encode, List.flatMap_nil, closing?]
  | char c s hc ih =>
      rw [Text.encode_cons, closing?_append run (tick_not_mem hc), ih, CodeSpan.splitAtRun?_cons hc,
        Option.map_map, Option.map_map, String.length_utf8EncodeChar]
      rfl
  | run n s hn hs ih =>
      rw [← CodeSpan.delimiter, Text.encode_append, encode_delimiter,
        closing?_run run hn (head?_encode_ne hs), ih, CodeSpan.splitAtRun?_run hn hs]
      split
      · rfl
      · rw [Option.map_map, Option.map_map]
        congr 1
        funext found
        simp only [Function.comp_apply, Text.byteSize_append, byteSize_delimiter]

/-! ## The scan -/

theorem scanFrom_append (offset : Nat) {bs : Bytes} (htick : tick ∉ bs) (hslash : slash ∉ bs)
    (rest : Bytes) : scanFrom offset (bs ++ rest) = scanFrom (offset + bs.length) rest := by
  induction bs generalizing offset with
  | nil => rfl
  | cons b bs ih =>
      rw [List.mem_cons, not_or] at htick hslash
      rw [List.cons_append, scanFrom, if_neg (Ne.symm hslash.1), if_neg (Ne.symm htick.1),
        ih _ htick.2 hslash.2, List.length_cons, Nat.add_assoc, Nat.add_comm 1]

/-- The second of the two bytes stepped over may be the first of several. -/
theorem scanFrom_escape (offset : Nat) (c : Char) (rest : Bytes) :
    scanFrom offset (slash :: (String.utf8EncodeChar c ++ rest)) =
      scanFrom (offset + Text.byteSize ['\\', c]) rest := by
  have hlength := String.length_utf8EncodeChar c
  have hsize : Text.byteSize ['\\', c] = 1 + c.utf8Size := rfl
  obtain ⟨b, bs, hbytes⟩ := List.exists_cons_of_ne_nil (Utf8.utf8EncodeChar_ne_nil c)
  obtain ⟨htick, hslash⟩ := not_mem_of_cons hbytes
  rw [hbytes, List.length_cons] at hlength
  rw [hbytes, scanFrom, if_pos rfl, List.cons_append, List.drop_one, List.tail_cons,
    scanFrom_append _ htick hslash, hsize, ← hlength]
  congr 1
  omega

theorem scanFrom_slash (offset : Nat) : scanFrom offset [slash] = scanFrom (offset + 1) [] := by
  simp [scanFrom]

theorem scanFrom_run (offset : Nat) {n : Nat} (hn : n ≠ 0) {bs : Bytes}
    (hbs : bs.head? ≠ some tick) : scanFrom offset (List.replicate n tick ++ bs) =
      match closing? n bs with
      | some gap =>
          ⟨offset, offset + n + gap + n⟩ :: scanFrom (offset + n + gap + n) (bs.drop (gap + n))
      | none => scanFrom (offset + n) bs := by
  obtain ⟨n, rfl⟩ := Nat.exists_eq_succ_of_ne_zero hn
  have hne : tick ≠ slash := by decide
  have hdrop (k : Nat) : (List.replicate n tick ++ bs).drop (n + k) = bs.drop k := by
    rw [← List.drop_drop, drop_replicate_append]
  rw [List.replicate_succ, List.cons_append, scanFrom, if_neg hne, if_pos rfl]
  simp only [ticks_replicate_append n hbs, Nat.add_sub_cancel, drop_replicate_append,
    Nat.add_assoc n, hdrop]

end ByteScan

namespace CodeSpan

open ByteScan (scanFrom scanFrom_append scanFrom_run encode_delimiter byteSize_delimiter
  closing?_encode head?_encode_ne)
open Text (byteSize encode encode_cons encode_append length_encode)

/-! ## The scan of a text -/

/-- The bytes of prose are scanned without finding a span. -/
theorem Passes.scanFrom_encode {x r : Text} (h : Passes x r) (offset : Nat) :
    scanFrom offset (encode (x ++ r)) = scanFrom (offset + byteSize x) (encode r) := by
  induction h generalizing offset with
  | nil => rfl
  | @escape x r c _ ih =>
      have hescape := ByteScan.scanFrom_escape offset c (encode (x ++ r))
      rw [ih, Nat.add_assoc, ← Text.byteSize_append] at hescape
      exact hescape
  | @char c x r htick hslash _ ih =>
      rw [List.cons_append, encode_cons,
        scanFrom_append _ (ByteScan.tick_not_mem htick) (ByteScan.slash_not_mem hslash),
        String.length_utf8EncodeChar, ih, Nat.add_assoc]
      rfl
  | slash => exact ByteScan.scanFrom_slash offset
  | @run n x r hn hnext hnone _ ih =>
      rw [List.append_assoc, encode_append, encode_delimiter,
        scanFrom_run offset hn (head?_encode_ne hnext), closing?_encode,
        splitAtRun?_eq_none_iff.mpr hnone, Text.byteSize_append, byteSize_delimiter]
      exact (ih _).trans (by rw [Nat.add_assoc])

theorem Cuts.scanFrom_encode {s : Text} {ps : List (Piece CodeSpan)} (h : Cuts s ps)
    (offset : Nat) : scanFrom offset (encode s) = Piece.spans source offset ps := by
  induction h generalizing offset with
  | nil => rw [encode, List.flatMap_nil, scanFrom, Piece.spans]
  | @found span after ps hspan _ ih =>
      have hrest : (span.content ++ delimiter span.run ++ after).head? ≠ some backtick := by
        rw [List.append_assoc, List.head?_append_of_ne_nil _ hspan.content_ne_nil]
        exact hspan.head
      have hclosing := splitAtRun?_append hspan.run_ne_zero hspan.last hspan.after
        hspan.run_not_mem
      rw [source, List.append_assoc, List.append_assoc, ← List.append_assoc span.content,
        encode_append, encode_delimiter, scanFrom_run offset hspan.run_ne_zero
          (head?_encode_ne hrest), closing?_encode, hclosing]
      have hdrop : (encode (span.content ++ delimiter span.run ++ after)).drop
          (byteSize span.content + span.run) = encode after := by
        rw [encode_append]
        apply List.drop_left'
        rw [length_encode, Text.byteSize_append, byteSize_delimiter]
      have hsize : byteSize span.source = span.run + byteSize span.content + span.run := by
        rw [source, Text.byteSize_append, Text.byteSize_append, byteSize_delimiter]
      simp only [Option.map_some, hdrop, ih, Piece.spans, hsize, Nat.add_assoc]
  | @plain x r ps _ hpass _ _ ih => exact (hpass.scanFrom_encode offset).trans (ih _)

/-- The spans found in the bytes of a text are those found in its characters. -/
theorem scan_encode (s : Text) : ByteScan.scan (encode s) = ranges s :=
  (cuts_pieces s).scanFrom_encode 0

end CodeSpan

end Tidymark
