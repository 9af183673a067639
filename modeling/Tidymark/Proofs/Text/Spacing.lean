import Tidymark.Proofs.Text.Words

/-!
# Words and the blanks between them

The words of texts put together are those of the parts, wherever a blank keeps
the parts asunder.  Other blanks in the place of blanks, and blanks in front or
behind, leave the words of a text as they are.
-/

namespace Tidymark

namespace Text

theorem words_cons_of_head? {c : Char} (hc : isBlank c = false) {s : Text}
    (hs : ∀ d, s.head? = some d → isBlank d = true) : words (c :: s) = [c] :: words s :=
  words_append (w := [c]) ⟨by simp, by simpa using hc⟩ hs

theorem words_cons_of_not_head? {c : Char} (hc : isBlank c = false) {s : Text}
    (hs : ¬∀ d, s.head? = some d → isBlank d = true) : words (c :: s) = consFirst c (words s) := by
  cases s with
  | nil => exact absurd (by simp) hs
  | cons d s =>
      have hd : isBlank d = false := by simpa using hs
      exact words_cons_of_cons hc hd s

theorem words_ne_nil {c : Char} (hc : isBlank c = false) (s : Text) : words (c :: s) ≠ [] := by
  rw [words_cons hc]
  exact List.cons_ne_nil _ _

theorem words_append_blank {c : Char} (hc : isBlank c = true) (s t : Text) :
    words (s ++ c :: t) = words s ++ words t := by
  induction s with
  | nil => rw [List.nil_append, words_cons_blank hc, words_nil, List.nil_append]
  | cons d s ih =>
      by_cases hd : isBlank d = true
      · rw [List.cons_append, words_cons_blank hd, words_cons_blank hd, ih]
      · rw [Bool.not_eq_true] at hd
        cases s with
        | nil =>
            rw [List.singleton_append, words_cons_of_head? hd (by simpa using hc),
              words_cons_blank hc, words_cons_of_head? hd (by simp), words_nil]
            rfl
        | cons e s =>
            by_cases he : isBlank e = true
            · rw [List.cons_append, words_cons_of_head? hd (by simpa using he), ih,
                words_cons_of_head? hd (by simpa using he), List.cons_append]
            · rw [Bool.not_eq_true] at he
              rw [List.cons_append, List.cons_append, words_cons_of_cons hd he, ← List.cons_append,
                ih, words_cons_of_cons hd he, consFirst_append (words_ne_nil he s)]

theorem words_append_of_head? (s : Text) {t : Text}
    (ht : ∀ c, t.head? = some c → isBlank c = true) : words (s ++ t) = words s ++ words t := by
  cases t with
  | nil => rw [List.append_nil, words_nil, List.append_nil]
  | cons c t =>
      have hc : isBlank c = true := ht c rfl
      rw [words_append_blank hc, words_cons_blank hc]

theorem words_append_of_all_left {s : Text} (hs : ∀ c ∈ s, isBlank c = true) (t : Text) :
    words (s ++ t) = words t := by
  induction s with
  | nil => rfl
  | cons c s ih =>
      rw [List.forall_mem_cons] at hs
      rw [List.cons_append, words_cons_blank hs.1, ih hs.2]

theorem words_of_all {s : Text} (hs : ∀ c ∈ s, isBlank c = true) : words s = [] := by
  have hwords := words_append_of_all_left hs []
  rwa [List.append_nil, words_nil] at hwords

theorem words_append_of_all_right (s : Text) {t : Text} (ht : ∀ c ∈ t, isBlank c = true) :
    words (s ++ t) = words s := by
  cases t with
  | nil => rw [List.append_nil]
  | cons c t =>
      rw [List.forall_mem_cons] at ht
      rw [words_append_blank ht.1, words_of_all ht.2, List.append_nil]

theorem words_of_isAllBlank {s : Text} (hs : isAllBlank s = true) : words s = [] :=
  words_of_all (List.all_eq_true.mp hs)

theorem words_of_isWord {w : Text} (hw : IsWord w) : words w = [w] := by
  have hwords := words_append hw (s := []) (by simp)
  rwa [List.append_nil, words_nil] at hwords

theorem isWord_replicate {n : Nat} (hn : n ≠ 0) {c : Char} (hc : isBlank c = false) :
    IsWord (List.replicate n c) where
  ne_nil := by simpa using hn
  not_blank d hd := by rwa [List.eq_of_mem_replicate hd]

theorem isBlank_of_mem_spaces (n : Nat) : ∀ c ∈ List.replicate n ' ', isBlank c = true := by
  intro c hc
  rw [List.eq_of_mem_replicate hc]
  rfl

theorem words_append_break (s : Text) : words (s ++ ['\n']) = words s :=
  words_append_of_all_right s (List.forall_mem_singleton.mpr rfl)

theorem words_dropEndWhile {p : Char → Bool} (hp : ∀ c, p c = true → isBlank c = true)
    (s : Text) : words (dropEndWhile p s) = words s := by
  obtain ⟨dropped, hdropped, hsplit⟩ := exists_eq_dropEndWhile_append p s
  conv => rhs; rw [hsplit]
  rw [words_append_of_all_right _ fun c hc => hp c (hdropped c hc)]

theorem words_trim (s : Text) : words (trim s) = words s := by
  have hstart : words (trimStart s) = words s := by
    have hblank : ∀ c ∈ s.takeWhile isBlank, isBlank c = true := fun c hc =>
      List.mem_takeWhile_imp hc
    conv => rhs; rw [← List.takeWhile_append_dropWhile (p := isBlank) (l := s)]
    rw [words_append_of_all_left hblank, trimStart]
  rw [trim, trimEnd, words_dropEndWhile (fun _ hc => hc), hstart]

theorem words_joinLines (ls : List Text) : words (joinLines ls) = ls.flatMap words := by
  induction ls with
  | nil => exact words_nil
  | cons l rest ih =>
      cases rest with
      | nil => simp [joinLines]
      | cons next rest =>
          have hbreak : isBlank '\n' = true := rfl
          rw [joinLines, words_append_blank hbreak, ih, List.flatMap_cons (x := l)]

theorem words_joinWords_eq (ts : List Text) : words (joinWords ts) = ts.flatMap words := by
  induction ts with
  | nil => exact words_nil
  | cons t rest ih =>
      cases rest with
      | nil => simp [joinWords]
      | cons next rest =>
          have hspace : isBlank ' ' = true := rfl
          rw [joinWords, words_append_blank hspace, ih, List.flatMap_cons (x := t)]

theorem flatMap_words_lines (s : Text) : (lines s).flatMap words = words s := by
  rw [← words_joinLines, joinLines_lines]

theorem words_collapseBlanks (s : Text) : words (collapseBlanks s) = words s := by
  rw [collapseBlanks, words_joinLines, List.flatMap_map]
  calc (lines s).flatMap (fun line => words (joinWords (words line)))
      = (lines s).flatMap words := by
        simp only [words_joinWords fun w hw => isWord_of_mem_words hw]
    _ = words s := flatMap_words_lines s

/-! ## Texts that end with their lines -/

/-- The last line of a text, if it has any, has its line feed. -/
def Ended (s : Text) : Prop := ∀ c, s.getLast? = some c → c = '\n'

theorem ended_nil : Ended [] := fun _ h => by cases h

theorem ended_append_break (s : Text) : Ended (s ++ ['\n']) := by
  intro c hc
  rw [List.getLast?_concat] at hc
  cases hc
  rfl

theorem Ended.append {s t : Text} (hs : Ended s) (ht : Ended t) : Ended (s ++ t) := by
  intro c hc
  rw [List.getLast?_append] at hc
  cases hlast : t.getLast? with
  | none =>
      rw [hlast, Option.none_or] at hc
      exact hs c hc
  | some d =>
      rw [hlast, Option.some_or] at hc
      cases hc
      exact ht c hlast

theorem Ended.words_append {s : Text} (hs : Ended s) (t : Text) :
    words (s ++ t) = words s ++ words t := by
  rcases List.eq_nil_or_concat s with rfl | ⟨r, c, rfl⟩
  · rw [List.nil_append, words_nil, List.nil_append]
  · rw [List.concat_eq_append] at hs ⊢
    have hc : c = '\n' := hs c List.getLast?_concat
    have hbreak : isBlank '\n' = true := rfl
    subst hc
    rw [List.append_assoc, List.singleton_append, words_append_blank hbreak,
      words_append_blank hbreak, words_nil, List.append_nil]

/-! ## Other blanks in the place of blanks -/

/-- A text with some of its runs of blanks replaced by others. -/
inductive Respaced : Text → Text → Prop where
  | nil : Respaced [] []
  | char (c : Char) {s t : Text} (h : Respaced s t) : Respaced (c :: s) (c :: t)
  | blanks {g k s t : Text} (hg : g ≠ []) (hk : k ≠ []) (hgs : ∀ c ∈ g, isBlank c = true)
      (hks : ∀ c ∈ k, isBlank c = true) (h : Respaced s t) : Respaced (g ++ s) (k ++ t)

namespace Respaced

theorem refl (s : Text) : Respaced s s := by
  induction s with
  | nil => exact .nil
  | cons c s ih => exact .char c ih

theorem append {s t s' t' : Text} (h : Respaced s t) (h' : Respaced s' t') :
    Respaced (s ++ s') (t ++ t') := by
  induction h with
  | nil => exact h'
  | char c _ ih => exact .char c ih
  | blanks hg hk hgs hks _ ih =>
      rw [List.append_assoc, List.append_assoc]
      exact .blanks hg hk hgs hks ih

theorem symm {s t : Text} (h : Respaced s t) : Respaced t s := by
  induction h with
  | nil => exact .nil
  | char c _ ih => exact .char c ih
  | blanks hg hk hgs hks _ ih => exact .blanks hk hg hks hgs ih

theorem eq_nil {t : Text} (h : Respaced [] t) : t = [] := by
  generalize hs : ([] : Text) = s at h
  cases h with
  | nil => rfl
  | char c _ => cases hs
  | blanks hg _ _ _ _ => exact absurd (List.append_eq_nil_iff.mp hs.symm).1 hg

theorem head?_blank {s t : Text} (h : Respaced s t) :
    (∀ c, s.head? = some c → isBlank c = true) ↔ ∀ c, t.head? = some c → isBlank c = true := by
  cases h with
  | nil => exact Iff.rfl
  | char c _ => exact Iff.rfl
  | @blanks g k _ _ hg hk hgs hks _ =>
      obtain ⟨a, g, rfl⟩ := List.exists_cons_of_ne_nil hg
      obtain ⟨b, k, rfl⟩ := List.exists_cons_of_ne_nil hk
      have ha : isBlank a = true := hgs a List.mem_cons_self
      have hb : isBlank b = true := hks b List.mem_cons_self
      simp [ha, hb]

theorem words_eq {s t : Text} (h : Respaced s t) : words s = words t := by
  induction h with
  | nil => rfl
  | @char c s t h ih =>
      by_cases hc : isBlank c = true
      · rw [words_cons_blank hc, words_cons_blank hc, ih]
      · rw [Bool.not_eq_true] at hc
        by_cases hs : ∀ d, s.head? = some d → isBlank d = true
        · rw [words_cons_of_head? hc hs, words_cons_of_head? hc (h.head?_blank.mp hs), ih]
        · rw [words_cons_of_not_head? hc hs,
            words_cons_of_not_head? hc (mt h.head?_blank.mpr hs), ih]
  | blanks _ _ hgs hks _ ih =>
      rw [words_append_of_all_left hgs, words_append_of_all_left hks, ih]

theorem mem_iff {c : Char} (hc : isBlank c = false) {s t : Text} (h : Respaced s t) :
    c ∈ s ↔ c ∈ t := by
  induction h with
  | nil => exact Iff.rfl
  | char d h ih => simp only [List.mem_cons, ih]
  | blanks hg hk hgs hks h ih =>
      have hnot : ¬isBlank c = true := by simp [hc]
      simp only [List.mem_append, ih, mt (hgs c) hnot, mt (hks c) hnot]

/-- A character that is not blank parts a text and the respaced one alike. -/
theorem exists_of_append_cons {c : Char} (hc : isBlank c = false) {a b t : Text}
    (h : Respaced (a ++ c :: b) t) :
    ∃ a' b', t = a' ++ c :: b' ∧ Respaced a a' ∧ Respaced b b' := by
  generalize hs : a ++ c :: b = s at h
  induction h generalizing a with
  | nil => cases (List.append_eq_nil_iff.mp hs).2
  | @char d s t h ih =>
      cases a with
      | nil =>
          cases hs
          exact ⟨[], t, rfl, .nil, h⟩
      | cons x a =>
          cases hs
          obtain ⟨a', b', rfl, ha, hb⟩ := ih rfl
          exact ⟨d :: a', b', rfl, .char d ha, hb⟩
  | @blanks g k s t hg hk hgs hks h ih =>
      rcases List.append_eq_append_iff.mp hs with ⟨x, rfl, hx⟩ | ⟨x, rfl, rfl⟩
      · -- The run of blanks would reach over the character.
        cases x with
        | nil =>
            obtain ⟨a', b', rfl, ha, hb⟩ := ih (a := []) hx
            refine ⟨k ++ a', b', by rw [List.append_assoc], ?_, hb⟩
            rw [List.append_nil] at hg hgs
            simpa using Respaced.blanks hg hk hgs hks ha
        | cons d x =>
            cases hx
            rw [hgs c (by simp)] at hc
            cases hc
      · obtain ⟨a', b', rfl, ha, hb⟩ := ih rfl
        exact ⟨k ++ a', b', by rw [List.append_assoc], .blanks hg hk hgs hks ha, hb⟩

/-- What is not blank in front of a text stays in front of the respaced one. -/
theorem exists_of_append_left {a : Text} (ha : ∀ c ∈ a, isBlank c = false) {b t : Text}
    (h : Respaced (a ++ b) t) : ∃ b', t = a ++ b' ∧ Respaced b b' := by
  induction a generalizing t with
  | nil => exact ⟨t, rfl, h⟩
  | cons c a ih =>
      rw [List.forall_mem_cons] at ha
      obtain ⟨front, t, rfl, hfront, h⟩ := exists_of_append_cons (a := []) ha.1 h
      obtain ⟨b', rfl, hb⟩ := ih ha.2 h
      cases hfront.eq_nil
      exact ⟨b', rfl, hb⟩

end Respaced

/-! ## The same words -/

theorem words_eq_nil_iff {s : Text} : words s = [] ↔ ∀ c ∈ s, isBlank c = true := by
  rw [← List.dropWhile_eq_nil_iff, words]
  split
  · next h => simp [h]
  · next h => simp [h]

theorem exists_of_words_eq_cons {s w : Text} {ws : List Text} (h : words s = w :: ws) :
    ∃ front rest, s = front ++ (w ++ rest) ∧ (∀ c ∈ front, isBlank c = true) ∧
      (∀ c, rest.head? = some c → isBlank c = true) ∧ words rest = ws := by
  rw [words] at h
  split at h
  · cases h
  · next c r hsplit =>
      cases h
      refine ⟨s.takeWhile isBlank, r.dropWhile (!isBlank ·), ?_, fun c hc =>
        List.mem_takeWhile_imp hc, fun c hc => ?_, rfl⟩
      · rw [List.cons_append, List.takeWhile_append_dropWhile, ← hsplit,
          List.takeWhile_append_dropWhile]
      · simpa using not_of_head?_dropWhile hc

section SameWords

variable {s t : Text}

theorem ne_nil_of_head?_blank {front w rest : Text} (hw : IsWord w)
    (h : ∀ c, (front ++ (w ++ rest)).head? = some c → isBlank c = true) : front ≠ [] := by
  rintro rfl
  obtain ⟨c, w, rfl⟩ := List.exists_cons_of_ne_nil hw.ne_nil
  have hc := hw.not_blank c List.mem_cons_self
  rw [h c rfl] at hc
  cases hc

theorem respaced_of_words_eq_of_head? (h : words s = words t)
    (hs : ∀ c, s.head? = some c → isBlank c = true)
    (ht : ∀ c, t.head? = some c → isBlank c = true) : Respaced (s ++ [' ']) (t ++ [' ']) := by
  generalize hws : words t = ws at h
  induction ws generalizing s t with
  | nil =>
      have hblanks {r : Text} (hr : words r = []) : ∀ c ∈ r ++ [' '], isBlank c = true :=
        List.forall_mem_append.mpr
          ⟨words_eq_nil_iff.mp hr, List.forall_mem_singleton.mpr rfl⟩
      simpa using Respaced.blanks (by simp) (by simp) (hblanks h) (hblanks hws) .nil
  | cons w ws ih =>
      have hw : IsWord w := isWord_of_mem_words (s := s) (by rw [h]; exact List.mem_cons_self)
      obtain ⟨front, rest, rfl, hfront, hrest, hwords⟩ := exists_of_words_eq_cons h
      obtain ⟨front', rest', rfl, hfront', hrest', hwords'⟩ := exists_of_words_eq_cons hws
      have hmore := ih hrest hrest' hwords' hwords
      rw [List.append_assoc, List.append_assoc, List.append_assoc, List.append_assoc]
      exact .blanks (ne_nil_of_head?_blank hw hs) (ne_nil_of_head?_blank hw ht) hfront hfront'
        ((Respaced.refl w).append hmore)

/-- Texts have the same words exactly if, between two spaces, one is the other respaced. -/
theorem words_eq_iff_respaced :
    words s = words t ↔ Respaced (' ' :: s ++ [' ']) (' ' :: t ++ [' ']) := by
  have hspace : isBlank ' ' = true := rfl
  have hend : ∀ c ∈ [' '], isBlank c = true := List.forall_mem_singleton.mpr rfl
  constructor
  · intro h
    apply respaced_of_words_eq_of_head?
    · rw [words_cons_blank hspace, words_cons_blank hspace, h]
    · simp [hspace]
    · simp [hspace]
  · intro h
    have hwords := h.words_eq
    rwa [words_append_of_all_right _ hend, words_append_of_all_right _ hend,
      words_cons_blank hspace, words_cons_blank hspace] at hwords

end SameWords

end Text

end Tidymark
