import Tidymark.Text.Utf8

/-!
# Decoding inverts encoding

What is read at the start of some bytes is a character exactly if its encoding
stands there.  So decoding succeeds exactly on the encodings of texts, and
gives the text back.
-/

namespace Tidymark

namespace Utf8

/-! ## One character -/

theorem toNat_ofNat {n : Nat} (h : n.isValidChar) : (Char.ofNat n).toNat = n := by
  rw [Char.ofNat, dif_pos h]
  rfl

theorem bytes_eq {as bs : Bytes} (h : as.map UInt8.toNat = bs.map UInt8.toNat) : as = bs :=
  List.map_inj_right (fun _ _ hab => UInt8.toNat_inj.mp hab) |>.mp h

theorem low_three (b : UInt8) : low 3 b = b.toNat % 8 := rfl

theorem low_four (b : UInt8) : low 4 b = b.toNat % 16 := rfl

theorem low_five (b : UInt8) : low 5 b = b.toNat % 32 := rfl

theorem low_six (b : UInt8) : low 6 b = b.toNat % 64 := rfl

theorem isContinuation_iff {b : UInt8} :
    isContinuation b = true ↔ 0x80 ≤ b.toNat ∧ b.toNat ≤ 0xBF := by
  simp [isContinuation, UInt8.le_iff_toNat_le]

/-- The second byte of three or four continues the first and keeps the number in range. -/
theorem allowsSecond_iff {a b : UInt8} :
    allowsSecond a b = true ↔
      0x80 ≤ b.toNat ∧ b.toNat ≤ 0xBF ∧ (a.toNat = 0xE0 → 0xA0 ≤ b.toNat) ∧
        (a.toNat = 0xED → b.toNat ≤ 0x9F) ∧ (a.toNat = 0xF0 → 0x90 ≤ b.toNat) ∧
        (a.toNat = 0xF4 → b.toNat ≤ 0x8F) := by
  simp only [allowsSecond, isContinuation, ← UInt8.toNat_inj, UInt8.le_iff_toNat_le]
  repeat' split
  all_goals simp_all
  all_goals omega

def codeUnits (n : Nat) : List Nat :=
  if n ≤ 0x7F then [n]
  else if n ≤ 0x7FF then [n / 64 + 0xC0, n % 64 + 0x80]
  else if n ≤ 0xFFFF then [n / 4096 + 0xE0, n / 64 % 64 + 0x80, n % 64 + 0x80]
  else [n / 262144 + 0xF0, n / 4096 % 64 + 0x80, n / 64 % 64 + 0x80, n % 64 + 0x80]

theorem map_toNat_utf8EncodeChar (c : Char) :
    (String.utf8EncodeChar c).map UInt8.toNat = codeUnits c.toNat := by
  have hvalid : c.toNat < 0x110000 := by
    rcases c.valid with h | h
    · exact Nat.lt_trans h (by decide)
    · exact h.2
  simp only [String.utf8EncodeChar, codeUnits, Char.toNat_val]
  repeat' split
  all_goals
    simp only [List.map_cons, List.map_nil, UInt8.toNat_ofNat', List.cons.injEq, and_true]
    omega

/-- Bytes whose numbers are those of a character are its encoding. -/
theorem eq_utf8EncodeChar {n : Nat} (hn : n.isValidChar) {bs : Bytes}
    (h : bs.map UInt8.toNat = codeUnits n) : bs = String.utf8EncodeChar (Char.ofNat n) := by
  apply bytes_eq
  rw [h, map_toNat_utf8EncodeChar, toNat_ofNat hn]

theorem utf8EncodeChar_ne_nil (c : Char) : String.utf8EncodeChar c ≠ [] := by
  rw [← List.length_pos_iff, String.length_utf8EncodeChar]
  exact c.utf8Size_pos

theorem eq_of_mem_utf8EncodeChar {c : Char} {b : UInt8} (hb : b ∈ String.utf8EncodeChar c)
    (hlow : b.toNat < 0x80) : String.utf8EncodeChar c = [b] ∧ c.toNat = b.toNat := by
  have hunits := map_toNat_utf8EncodeChar c
  have hmem : b.toNat ∈ codeUnits c.toNat := hunits ▸ List.mem_map_of_mem hb
  have hsmall : c.toNat ≤ 0x7F := by
    apply Decidable.byContradiction
    intro hlarge
    rw [codeUnits, if_neg hlarge] at hmem
    repeat' split at hmem
    all_goals
      simp only [List.mem_cons, List.not_mem_nil, or_false] at hmem
      omega
  rw [codeUnits, if_pos hsmall] at hunits hmem
  have heq : b.toNat = c.toNat := List.mem_singleton.mp hmem
  refine ⟨bytes_eq ?_, heq.symm⟩
  rw [hunits, ← heq]
  rfl

/-- A beginning of some bytes that is the encoding of a character of so many bytes. -/
def Encodes (c : Char) (k : Nat) (bs : Bytes) : Prop :=
  k = (String.utf8EncodeChar c).length ∧ String.utf8EncodeChar c <+: bs

theorem encodes_of_codeUnits {n : Nat} (hn : n.isValidChar) (bs : Bytes) {tail : Bytes}
    (h : bs.map UInt8.toNat = codeUnits n) : Encodes (Char.ofNat n) bs.length (bs ++ tail) := by
  rw [Encodes, ← eq_utf8EncodeChar hn h]
  exact ⟨rfl, List.prefix_append bs tail⟩

theorem encodes_of_readTwo {a : UInt8} {rest : Bytes} {c : Char} {k : Nat}
    (ha : 0xC2 ≤ a.toNat ∧ a.toNat ≤ 0xDF) (h : readTwo a rest = .char c k) :
    Encodes c k (a :: rest) := by
  cases rest with
  | nil => cases h
  | cons b tail =>
      rw [readTwo] at h
      split at h
      · next hb =>
          rw [isContinuation_iff] at hb
          cases h
          simp only [low_five, low_six]
          refine encodes_of_codeUnits (Or.inl (by omega)) [a, b] ?_
          rw [codeUnits, if_neg (by omega), if_pos (by omega)]
          simp only [List.map_cons, List.map_nil, List.cons.injEq, and_true]
          omega
      · cases h

theorem of_readThree {a : UInt8} {rest : Bytes} {c : Char} {k : Nat}
    (h : readThree a rest = .char c k) :
    ∃ b d tail, rest = b :: d :: tail ∧ allowsSecond a b = true ∧ isContinuation d = true ∧
      c = Char.ofNat (low 4 a * 4096 + low 6 b * 64 + low 6 d) ∧ k = 3 := by
  cases rest with
  | nil => cases h
  | cons b rest =>
      rw [readThree.eq_def] at h
      simp only at h
      split at h
      · next hb =>
          cases rest with
          | nil => cases h
          | cons d tail =>
              simp only at h
              split at h
              · next hd =>
                  cases h
                  exact ⟨b, d, tail, rfl, hb, hd, rfl, rfl⟩
              · cases h
      · cases h

theorem encodes_of_readThree {a : UInt8} {rest : Bytes} {c : Char} {k : Nat}
    (ha : 0xE0 ≤ a.toNat ∧ a.toNat ≤ 0xEF) (h : readThree a rest = .char c k) :
    Encodes c k (a :: rest) := by
  obtain ⟨b, d, tail, rfl, hb, hd, rfl, rfl⟩ := of_readThree h
  rw [allowsSecond_iff] at hb
  rw [isContinuation_iff] at hd
  simp only [low_four, low_six]
  refine encodes_of_codeUnits (by simp only [Nat.isValidChar]; omega) [a, b, d] ?_
  rw [codeUnits, if_neg (by omega), if_neg (by omega), if_pos (by omega)]
  simp only [List.map_cons, List.map_nil, List.cons.injEq, and_true]
  omega

theorem of_readFour {a : UInt8} {rest : Bytes} {c : Char} {k : Nat}
    (h : readFour a rest = .char c k) :
    ∃ b d e tail, rest = b :: d :: e :: tail ∧ allowsSecond a b = true ∧
      isContinuation d = true ∧ isContinuation e = true ∧
      c = Char.ofNat (low 3 a * 262144 + low 6 b * 4096 + low 6 d * 64 + low 6 e) ∧ k = 4 := by
  cases rest with
  | nil => cases h
  | cons b rest =>
      rw [readFour.eq_def] at h
      simp only at h
      split at h
      · next hb =>
          cases rest with
          | nil => cases h
          | cons d rest =>
              simp only at h
              split at h
              · next hd =>
                  cases rest with
                  | nil => cases h
                  | cons e tail =>
                      simp only at h
                      split at h
                      · next he =>
                          cases h
                          exact ⟨b, d, e, tail, rfl, hb, hd, he, rfl, rfl⟩
                      · cases h
              · cases h
      · cases h

theorem encodes_of_readFour {a : UInt8} {rest : Bytes} {c : Char} {k : Nat}
    (ha : 0xF0 ≤ a.toNat ∧ a.toNat ≤ 0xF4) (h : readFour a rest = .char c k) :
    Encodes c k (a :: rest) := by
  obtain ⟨b, d, e, tail, rfl, hb, hd, he, rfl, rfl⟩ := of_readFour h
  rw [allowsSecond_iff] at hb
  rw [isContinuation_iff] at hd he
  simp only [low_three, low_six]
  refine encodes_of_codeUnits (by simp only [Nat.isValidChar]; omega) [a, b, d, e] ?_
  rw [codeUnits, if_neg (by omega), if_neg (by omega), if_neg (by omega)]
  simp only [List.map_cons, List.map_nil, List.cons.injEq, and_true]
  omega

theorem read_eq (a : UInt8) (rest : Bytes) :
    read a rest =
      if a.toNat < 0x80 then .char (Char.ofNat a.toNat) 1
      else if 0xC2 ≤ a.toNat ∧ a.toNat ≤ 0xDF then readTwo a rest
      else if 0xE0 ≤ a.toNat ∧ a.toNat ≤ 0xEF then readThree a rest
      else if 0xF0 ≤ a.toNat ∧ a.toNat ≤ 0xF4 then readFour a rest
      else .wrong 1 := by
  simp only [read, Bool.and_eq_true, decide_eq_true_eq, UInt8.le_iff_toNat_le,
    UInt8.lt_iff_toNat_lt]
  rfl

/-- A character is only read where its encoding stands. -/
theorem encodes_of_read {a : UInt8} {rest : Bytes} {c : Char} {k : Nat}
    (h : read a rest = .char c k) : Encodes c k (a :: rest) := by
  rw [read_eq] at h
  split at h
  · next ha =>
      cases h
      refine encodes_of_codeUnits (Or.inl (by omega)) [a] ?_
      rw [codeUnits, if_pos (by omega)]
      rfl
  · split at h
    · next ha => exact encodes_of_readTwo ha h
    · split at h
      · next ha => exact encodes_of_readThree ha h
      · split at h
        · next ha => exact encodes_of_readFour ha h
        · cases h

theorem read_two {n : Nat} {a b : UInt8} (hlow : ¬n ≤ 0x7F) (hhigh : n ≤ 0x7FF)
    (ha : a.toNat = n / 64 + 0xC0) (hb : b.toNat = n % 64 + 0x80) (rest : Bytes) :
    read a (b :: rest) = .char (Char.ofNat n) 2 := by
  have hvalue : low 5 a * 64 + low 6 b = n := by
    simp only [low_five, low_six]
    omega
  rw [read_eq, if_neg (by omega), if_pos (by omega), readTwo,
    if_pos (isContinuation_iff.mpr (by omega)), hvalue]

theorem read_three {n : Nat} {a b d : UInt8} (hn : n.isValidChar) (hlow : ¬n ≤ 0x7FF)
    (hhigh : n ≤ 0xFFFF) (ha : a.toNat = n / 4096 + 0xE0) (hb : b.toNat = n / 64 % 64 + 0x80)
    (hd : d.toNat = n % 64 + 0x80) (rest : Bytes) :
    read a (b :: d :: rest) = .char (Char.ofNat n) 3 := by
  simp only [Nat.isValidChar] at hn
  have hvalue : low 4 a * 4096 + low 6 b * 64 + low 6 d = n := by
    simp only [low_four, low_six]
    omega
  have hsecond : allowsSecond a b = true := allowsSecond_iff.mpr (by omega)
  rw [read_eq, if_neg (by omega), if_neg (by omega), if_pos (by omega), readThree,
    if_pos hsecond, if_pos (isContinuation_iff.mpr (by omega)), hvalue]

theorem read_four {n : Nat} {a b d e : UInt8} (hn : n.isValidChar) (hlow : ¬n ≤ 0xFFFF)
    (ha : a.toNat = n / 262144 + 0xF0) (hb : b.toNat = n / 4096 % 64 + 0x80)
    (hd : d.toNat = n / 64 % 64 + 0x80) (he : e.toNat = n % 64 + 0x80) (rest : Bytes) :
    read a (b :: d :: e :: rest) = .char (Char.ofNat n) 4 := by
  simp only [Nat.isValidChar] at hn
  have hvalue : low 3 a * 262144 + low 6 b * 4096 + low 6 d * 64 + low 6 e = n := by
    simp only [low_three, low_six]
    omega
  have hsecond : allowsSecond a b = true := allowsSecond_iff.mpr (by omega)
  rw [read_eq, if_neg (by omega), if_neg (by omega), if_neg (by omega), if_pos (by omega),
    readFour, if_pos hsecond, if_pos (isContinuation_iff.mpr (by omega)),
    if_pos (isContinuation_iff.mpr (by omega)), hvalue]

theorem read_of_codeUnits {n : Nat} (hn : n.isValidChar) {bs : Bytes}
    (h : bs.map UInt8.toNat = codeUnits n) :
    ∃ a tail, bs = a :: tail ∧
      ∀ rest, read a (tail ++ rest) = .char (Char.ofNat n) (tail.length + 1) := by
  rw [codeUnits] at h
  split at h
  · next hone =>
      obtain ⟨a, tail, rfl, ha, htail⟩ := List.map_eq_cons_iff.mp h
      obtain rfl := List.map_eq_nil_iff.mp htail
      refine ⟨a, [], rfl, fun rest => ?_⟩
      rw [read_eq, if_pos (by omega), ha]
      rfl
  · next hone =>
      split at h
      · next htwo =>
          obtain ⟨a, tail, rfl, ha, h⟩ := List.map_eq_cons_iff.mp h
          obtain ⟨b, tail, rfl, hb, h⟩ := List.map_eq_cons_iff.mp h
          obtain rfl := List.map_eq_nil_iff.mp h
          exact ⟨a, [b], rfl, read_two hone htwo ha hb⟩
      · next htwo =>
          split at h
          · next hthree =>
              obtain ⟨a, tail, rfl, ha, h⟩ := List.map_eq_cons_iff.mp h
              obtain ⟨b, tail, rfl, hb, h⟩ := List.map_eq_cons_iff.mp h
              obtain ⟨d, tail, rfl, hd, h⟩ := List.map_eq_cons_iff.mp h
              obtain rfl := List.map_eq_nil_iff.mp h
              exact ⟨a, [b, d], rfl, read_three hn htwo hthree ha hb hd⟩
          · next hthree =>
              obtain ⟨a, tail, rfl, ha, h⟩ := List.map_eq_cons_iff.mp h
              obtain ⟨b, tail, rfl, hb, h⟩ := List.map_eq_cons_iff.mp h
              obtain ⟨d, tail, rfl, hd, h⟩ := List.map_eq_cons_iff.mp h
              obtain ⟨e, tail, rfl, he, h⟩ := List.map_eq_cons_iff.mp h
              obtain rfl := List.map_eq_nil_iff.mp h
              exact ⟨a, [b, d, e], rfl, read_four hn hthree ha hb hd he⟩

/-- The encoding of a character is read as that character. -/
theorem read_utf8EncodeChar (c : Char) :
    ∃ a tail, String.utf8EncodeChar c = a :: tail ∧
      ∀ rest, read a (tail ++ rest) = .char c (tail.length + 1) := by
  obtain ⟨a, tail, hbytes, hread⟩ := read_of_codeUnits c.valid (map_toNat_utf8EncodeChar c)
  rw [Char.toNat_val, Char.ofNat_toNat] at hread
  exact ⟨a, tail, hbytes, hread⟩

/-! ## Whole texts -/

/-- Bytes held back are left out. -/
theorem decodeFrom_held (offset held : Nat) (bs : Bytes) :
    decodeFrom offset held bs = decodeFrom (offset + held) 0 (bs.drop held) := by
  induction bs generalizing offset held with
  | nil => rw [List.drop_nil, decodeFrom, decodeFrom]
  | cons b rest ih =>
      cases held with
      | zero => rfl
      | succ held => rw [decodeFrom, ih, List.drop_succ_cons, Nat.add_right_comm, Nat.add_assoc]

/-- After a character the bytes that follow its encoding are decoded. -/
theorem decodeFrom_append_of_read {a : UInt8} {tail : Bytes} {c : Char} (offset : Nat)
    (rest : Bytes) (h : read a (tail ++ rest) = .char c (tail.length + 1)) :
    decodeFrom offset 0 (a :: tail ++ rest) =
      (c :: ·) <$> decodeFrom (offset + 1 + tail.length) 0 rest := by
  rw [List.cons_append, decodeFrom]
  simp only [h]
  rw [Nat.add_sub_cancel, decodeFrom_held, List.drop_left]

theorem decodeFrom_encode (offset : Nat) (s : Text) :
    decodeFrom offset 0 (Text.encode s) = .ok s := by
  induction s generalizing offset with
  | nil => rfl
  | cons c s ih =>
      obtain ⟨a, tail, hbytes, hread⟩ := read_utf8EncodeChar c
      have hencode : Text.encode (c :: s) = a :: tail ++ Text.encode s := by
        rw [← hbytes]
        rfl
      rw [hencode, decodeFrom_append_of_read offset _ (hread _), ih]
      rfl

theorem of_decodeFrom_cons {offset : Nat} {b : UInt8} {rest : Bytes} {s : Text}
    (h : decodeFrom offset 0 (b :: rest) = .ok s) :
    ∃ c s' tail, s = c :: s' ∧ b :: rest = String.utf8EncodeChar c ++ tail ∧
      ∃ offset, decodeFrom offset 0 tail = .ok s' := by
  rw [decodeFrom] at h
  cases hread : read b rest with
  | char c size =>
      simp only [hread] at h
      cases hrest : decodeFrom (offset + 1) (size - 1) rest with
      | error fault => rw [hrest] at h; cases h
      | ok s' =>
          rw [hrest] at h
          cases h
          obtain ⟨hsize, tail, htail⟩ := encodes_of_read hread
          have hdrop : rest.drop (size - 1) = tail := by
            have hpos : 0 < (String.utf8EncodeChar c).length :=
              List.length_pos_iff.mpr (by simp)
            rw [← List.drop_succ_cons (a := b), ← htail, hsize, Nat.sub_add_cancel hpos,
              List.drop_left]
          rw [decodeFrom_held, hdrop] at hrest
          exact ⟨c, s', tail, rfl, htail.symm, _, hrest⟩
  | wrong size => simp only [hread] at h; cases h
  | cut => simp only [hread] at h; cases h

/-- What decodes to a text is its encoding. -/
theorem eq_encode_of_decodeFrom {offset : Nat} {bs : Bytes} {s : Text}
    (h : decodeFrom offset 0 bs = .ok s) : bs = Text.encode s := by
  induction s generalizing offset bs with
  | nil =>
      cases bs with
      | nil => rfl
      | cons b rest =>
          obtain ⟨c, s', tail, hs, _⟩ := of_decodeFrom_cons h
          cases hs
  | cons c s ih =>
      cases bs with
      | nil => rw [decodeFrom] at h; cases h
      | cons b rest =>
          obtain ⟨c', s', tail, hs, hbytes, offset', htail⟩ := of_decodeFrom_cons h
          cases hs
          rw [hbytes, ih htail]
          rfl

/-- Decoding succeeds on the encoding of a text and nowhere else. -/
theorem decode_eq_ok_iff {bs : Bytes} {s : Text} : decode bs = .ok s ↔ bs = Text.encode s := by
  refine ⟨eq_encode_of_decodeFrom, ?_⟩
  rintro rfl
  exact decodeFrom_encode 0 s

end Utf8

namespace Text

theorem encode_cons (c : Char) (s : Text) :
    encode (c :: s) = String.utf8EncodeChar c ++ encode s := rfl

theorem encode_append (s t : Text) : encode (s ++ t) = encode s ++ encode t := List.flatMap_append

theorem length_encode (s : Text) : (encode s).length = byteSize s := by
  induction s with
  | nil => rfl
  | cons c s ih =>
      rw [encode_cons, List.length_append, String.length_utf8EncodeChar, ih, byteSize]

end Text

end Tidymark
