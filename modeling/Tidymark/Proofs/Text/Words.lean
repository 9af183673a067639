import Mathlib.Data.List.Basic
import Mathlib.Data.List.TakeWhile
import Tidymark.Reflow

/-!
# Lines and words of joined texts

Joining lines that hold no line feed and splitting the result gives the lines
back, and likewise for words and spaces.  Hence collapsing blanks in a trimmed
text leaves a trimmed text and nothing more to collapse.
-/

namespace Tidymark

/-! ## Runs -/

theorem takeWhile_append_of_stop {α : Type} {p : α → Bool} {a b : List α}
    (ha : ∀ x ∈ a, p x = true) (hb : ∀ x, b.head? = some x → p x = false) :
    (a ++ b).takeWhile p = a := by
  rw [List.takeWhile_append_of_pos ha]
  cases b with
  | nil => simp
  | cons x b => rw [List.takeWhile_cons_of_neg (by simp [hb x rfl]), List.append_nil]

theorem dropWhile_append_of_stop {α : Type} {p : α → Bool} {a b : List α}
    (ha : ∀ x ∈ a, p x = true) (hb : ∀ x, b.head? = some x → p x = false) :
    (a ++ b).dropWhile p = b := by
  rw [List.dropWhile_append_of_pos ha]
  cases b with
  | nil => rfl
  | cons x b => rw [List.dropWhile_cons_of_neg (by simp [hb x rfl])]

namespace Text

/-! ## Lines -/

@[simp] theorem lines_nil : lines [] = [[]] := rfl

@[simp] theorem lines_cons_break (s : Text) : lines ('\n' :: s) = [] :: lines s := by
  simp [lines]

theorem lines_cons {c : Char} (hc : c ≠ '\n') (s : Text) :
    lines (c :: s) = consFirst c (lines s) := by
  simp [lines, hc]

theorem not_mem_of_mem_lines {s l : Text} (hl : l ∈ lines s) : '\n' ∉ l := by
  induction s generalizing l with
  | nil => simp_all
  | cons c s ih =>
      by_cases hc : c = '\n'
      · subst hc
        rw [lines_cons_break, List.mem_cons] at hl
        rcases hl with rfl | hl
        · simp
        · exact ih hl
      · rw [lines_cons hc] at hl
        cases hs : lines s with
        | nil => exact absurd hs (lines_ne_nil s)
        | cons line rest =>
            rw [hs, consFirst, List.mem_cons] at hl
            rcases hl with rfl | hl
            · have hline : '\n' ∉ line := ih (by simp [hs])
              simp [hline, Ne.symm hc]
            · exact ih (by simp [hs, hl])

theorem lines_of_not_mem {s : Text} (hs : '\n' ∉ s) : lines s = [s] := by
  induction s with
  | nil => rfl
  | cons c s ih =>
      rw [List.mem_cons, not_or] at hs
      rw [lines_cons (Ne.symm hs.1), ih hs.2, consFirst]

theorem consFirst_append {c : Char} {ls : List Text} (hls : ls ≠ []) (ks : List Text) :
    consFirst c (ls ++ ks) = consFirst c ls ++ ks := by
  cases ls with
  | nil => exact absurd rfl hls
  | cons l ls => rfl

theorem lines_append_cons (s t : Text) : lines (s ++ '\n' :: t) = lines s ++ lines t := by
  induction s with
  | nil => rw [List.nil_append, lines_cons_break, lines_nil, List.singleton_append]
  | cons c s ih =>
      by_cases hc : c = '\n'
      · subst hc
        rw [List.cons_append, lines_cons_break, lines_cons_break, ih, List.cons_append]
      · rw [List.cons_append, lines_cons hc, lines_cons hc, ih,
          consFirst_append (lines_ne_nil s)]

theorem lines_append_break {l : Text} (hl : '\n' ∉ l) (s : Text) :
    lines (l ++ '\n' :: s) = l :: lines s := by
  rw [lines_append_cons, lines_of_not_mem hl, List.singleton_append]

theorem lines_append_of_not_mem {l : Text} (hl : '\n' ∉ l) {s first : Text} {rest : List Text}
    (hs : lines s = first :: rest) : lines (l ++ s) = (l ++ first) :: rest := by
  induction l with
  | nil => exact hs
  | cons c l ih =>
      rw [List.mem_cons, not_or] at hl
      rw [List.cons_append, lines_cons (Ne.symm hl.1), ih hl.2, consFirst, List.cons_append]

theorem lines_joinLines {ls : List Text} (hne : ls ≠ []) (hls : ∀ l ∈ ls, '\n' ∉ l) :
    lines (joinLines ls) = ls := by
  induction ls with
  | nil => exact absurd rfl hne
  | cons l rest ih =>
      have hl : '\n' ∉ l := hls l (by simp)
      cases rest with
      | nil => exact lines_of_not_mem hl
      | cons next rest =>
          rw [joinLines, lines_append_break hl, ih (by simp) (fun k hk => hls k (by simp [hk]))]

theorem joinLines_append {ls ks : List Text} (hls : ls ≠ []) (hks : ks ≠ []) :
    joinLines (ls ++ ks) = joinLines ls ++ '\n' :: joinLines ks := by
  obtain ⟨k, ks, rfl⟩ := List.exists_cons_of_ne_nil hks
  induction ls with
  | nil => exact absurd rfl hls
  | cons l rest ih =>
      cases rest with
      | nil => rfl
      | cons next rest =>
          rw [List.cons_append, List.cons_append, joinLines, ← List.cons_append, ih (by simp),
            joinLines, List.append_assoc, List.cons_append]

/-! ## Words -/

@[simp] theorem words_nil : words [] = [] := by
  rw [words]; rfl

theorem words_cons_blank {c : Char} (hc : isBlank c = true) (s : Text) :
    words (c :: s) = words s := by
  rw [words, words, List.dropWhile_cons_of_pos hc]

theorem words_cons {c : Char} (hc : isBlank c = false) (s : Text) :
    words (c :: s) = (c :: s.takeWhile (!isBlank ·)) :: words (s.dropWhile (!isBlank ·)) := by
  rw [words, List.dropWhile_cons_of_neg (by simp [hc])]

theorem not_of_head?_dropWhile {α : Type} {p : α → Bool} {l : List α} {a : α}
    (h : (l.dropWhile p).head? = some a) : p a = false := by
  have hhead := List.head?_dropWhile_not p l
  rw [h] at hhead
  exact hhead

/-- Letters and digits are not blank. -/
theorem isBlank_of_isAlphanum {c : Char} (h : c.isAlphanum = true) : isBlank c = false := by
  have hrange : 48 ≤ c.toNat ∧ c.toNat ≤ 122 := by
    rcases Bool.or_eq_true_iff.mp h with hletter | hdigit
    · rcases Bool.or_eq_true_iff.mp hletter with hupper | hlower
      · have hbounds : 65 ≤ c.toNat ∧ c.toNat ≤ 90 := of_decide_eq_true hupper
        omega
      · obtain ⟨hlow, hhigh⟩ := Bool.and_eq_true_iff.mp hlower
        have hbounds : 97 ≤ c.toNat ∧ c.toNat ≤ 122 :=
          ⟨of_decide_eq_true hlow, of_decide_eq_true hhigh⟩
        omega
    · obtain ⟨hlow, hhigh⟩ := Bool.and_eq_true_iff.mp hdigit
      have hbounds : 48 ≤ c.toNat ∧ c.toNat ≤ 57 :=
        ⟨of_decide_eq_true hlow, of_decide_eq_true hhigh⟩
      omega
  simp only [isBlank, Bool.or_eq_false_iff, Bool.and_eq_false_iff, beq_eq_false_iff_ne,
    decide_eq_false_iff_not]
  omega

/-- A word is not empty and holds no blank. -/
structure IsWord (w : Text) : Prop where
  ne_nil : w ≠ []
  not_blank : ∀ c ∈ w, isBlank c = false

theorem isWord_of_mem_words {s w : Text} (hw : w ∈ words s) : IsWord w := by
  fun_induction words s with
  | case1 s h => simp at hw
  | case2 s c r h ih =>
      rcases List.mem_cons.mp hw with rfl | hw
      · refine ⟨by simp, fun d hd => ?_⟩
        rcases List.mem_cons.mp hd with rfl | hd
        · exact not_of_head?_dropWhile (by rw [h, List.head?_cons])
        · simpa using List.mem_takeWhile_imp hd
      · exact ih hw

/-- A word followed by a blank or the end is the first word. -/
theorem words_append {w s : Text} (hw : IsWord w) (hs : ∀ c, s.head? = some c → isBlank c = true) :
    words (w ++ s) = w :: words s := by
  obtain ⟨hne, hword⟩ := hw
  cases w with
  | nil => exact absurd rfl hne
  | cons c w =>
      have hc : isBlank c = false := hword c (by simp)
      have hw : ∀ d ∈ w, (!isBlank d) = true := fun d hd => by simp [hword d (by simp [hd])]
      have hs' : s.takeWhile (!isBlank ·) = [] ∧ s.dropWhile (!isBlank ·) = s := by
        cases s with
        | nil => exact ⟨rfl, rfl⟩
        | cons d s =>
            have hd : isBlank d = true := hs d rfl
            constructor
            · rw [List.takeWhile_cons_of_neg (by simp [hd])]
            · rw [List.dropWhile_cons_of_neg (by simp [hd])]
      rw [List.cons_append, words_cons hc, List.takeWhile_append_of_pos hw,
        List.dropWhile_append_of_pos hw, hs'.1, hs'.2, List.append_nil]

/-- The words of words joined by spaces are those words. -/
theorem words_joinWords {ws : List Text} (hws : ∀ w ∈ ws, IsWord w) :
    words (joinWords ws) = ws := by
  induction ws with
  | nil => exact words_nil
  | cons w rest ih =>
      have hw : IsWord w := hws w (by simp)
      have hrest : ∀ v ∈ rest, IsWord v := fun v hv => hws v (by simp [hv])
      cases rest with
      | nil => simpa [joinWords] using words_append hw (s := []) (by simp)
      | cons next rest =>
          have hspace : isBlank ' ' = true := rfl
          rw [joinWords, words_append hw (by simp [hspace]), words_cons_blank hspace, ih hrest]

theorem joinWords_append {ws vs : List Text} (hws : ws ≠ []) (hvs : vs ≠ []) :
    joinWords (ws ++ vs) = joinWords ws ++ ' ' :: joinWords vs := by
  obtain ⟨v, vs, rfl⟩ := List.exists_cons_of_ne_nil hvs
  induction ws with
  | nil => exact absurd rfl hws
  | cons w rest ih =>
      cases rest with
      | nil => rfl
      | cons next rest =>
          rw [List.cons_append, List.cons_append, joinWords, ← List.cons_append, ih (by simp),
            joinWords, List.append_assoc, List.cons_append]

theorem length_joinWords (ws : List Text) :
    (joinWords ws).length = ws.flatten.length + (ws.length - 1) := by
  fun_induction joinWords ws with
  | case1 => rfl
  | case2 word => simp
  | case3 word next rest ih =>
      simp only [List.flatten_cons, List.length_append, List.length_cons, ih]
      omega

theorem break_not_mem_joinWords {ts : List Text} (hts : ∀ t ∈ ts, '\n' ∉ t) :
    '\n' ∉ joinWords ts := by
  induction ts with
  | nil => simp [joinWords]
  | cons t rest ih =>
      rw [List.forall_mem_cons] at hts
      cases rest with
      | nil => exact hts.1
      | cons next rest => simp [joinWords, hts.1, ih hts.2]

theorem not_mem_joinWords {ws : List Text} (hws : ∀ w ∈ ws, IsWord w) : '\n' ∉ joinWords ws :=
  break_not_mem_joinWords fun w hw hmem => by cases (hws w hw).not_blank _ hmem

/-! ## Collapsed blanks -/

theorem collapseBlanks_joinLines {ls : List (List Text)} (hls : ls ≠ [])
    (hwords : ∀ ws ∈ ls, ∀ w ∈ ws, IsWord w) :
    collapseBlanks (joinLines (ls.map joinWords)) = joinLines (ls.map joinWords) := by
  have hlines : lines (joinLines (ls.map joinWords)) = ls.map joinWords := by
    apply lines_joinLines (mt List.map_eq_nil_iff.mp hls)
    intro l hl
    obtain ⟨ws, hws, rfl⟩ := List.mem_map.mp hl
    exact not_mem_joinWords (hwords ws hws)
  rw [collapseBlanks, hlines, List.map_map]
  congr 1
  apply List.map_congr_left
  intro ws hws
  rw [Function.comp_apply, words_joinWords (hwords ws hws)]

theorem collapseBlanks_collapseBlanks (s : Text) :
    collapseBlanks (collapseBlanks s) = collapseBlanks s := by
  have hlines : collapseBlanks s = joinLines (((lines s).map words).map joinWords) := by
    rw [collapseBlanks, List.map_map]
    rfl
  rw [hlines]
  apply collapseBlanks_joinLines (mt List.map_eq_nil_iff.mp (lines_ne_nil s))
  intro ws hws w hw
  obtain ⟨line, _, rfl⟩ := List.mem_map.mp hws
  exact isWord_of_mem_words hw

/-! ## Trimmed texts -/

/-- Neither the first nor the last character of a text is blank. -/
structure Trimmed (s : Text) : Prop where
  head : ∀ c, s.head? = some c → isBlank c = false
  last : ∀ c, s.getLast? = some c → isBlank c = false

theorem dropEndWhile_eq_self {p : Char → Bool} {s : Text}
    (h : ∀ c, s.getLast? = some c → p c = false) : dropEndWhile p s = s := by
  rw [dropEndWhile]
  cases hs : s.reverse with
  | nil => simpa using hs.symm
  | cons c r =>
      have hc : p c = false := h c (by rw [List.getLast?_eq_head?_reverse, hs]; rfl)
      rw [List.dropWhile_cons_of_neg (by simp [hc]), ← hs, List.reverse_reverse]

theorem dropEndWhile_append {p : Char → Bool} {s : Text} {c : Char} (hlast : s.getLast? = some c)
    (hc : p c = false) (t : Text) : dropEndWhile p (s ++ t) = s ++ dropEndWhile p t := by
  have hs : s.reverse.dropWhile p = s.reverse := by
    obtain ⟨r, rfl⟩ := List.getLast?_eq_some_iff.mp hlast
    rw [List.reverse_concat, List.dropWhile_cons_of_neg (by simp [hc])]
  rw [dropEndWhile, dropEndWhile, List.reverse_append, List.dropWhile_append]
  split
  · next h =>
      rw [List.isEmpty_iff.mp h, hs, List.reverse_reverse, List.reverse_nil, List.append_nil]
  · rw [List.reverse_append, List.reverse_reverse]

theorem dropEndWhile_of_all {p : Char → Bool} {s : Text} (hs : ∀ c ∈ s, p c = true) :
    dropEndWhile p s = [] := by
  have hreverse : s.reverse.dropWhile p = [] := by
    rw [List.dropWhile_eq_nil_iff]
    intro c hc
    exact hs c (List.mem_reverse.mp hc)
  rw [dropEndWhile, hreverse, List.reverse_nil]

theorem exists_eq_dropEndWhile_append (p : Char → Bool) (s : Text) :
    ∃ dropped, (∀ c ∈ dropped, p c = true) ∧ s = dropEndWhile p s ++ dropped := by
  refine ⟨(s.reverse.takeWhile p).reverse, ?_, ?_⟩
  · intro c hc
    rw [List.mem_reverse] at hc
    exact List.mem_takeWhile_imp hc
  · rw [dropEndWhile, ← List.reverse_append, List.takeWhile_append_dropWhile, List.reverse_reverse]

theorem Trimmed.trim_eq {s : Text} (h : Trimmed s) : trim s = s := by
  have hstart : trimStart s = s := by
    cases s with
    | nil => rfl
    | cons c s => exact List.dropWhile_cons_of_neg (by simp [h.head c rfl])
  rw [trim, hstart, trimEnd, dropEndWhile_eq_self h.last]

theorem getLast?_dropEndWhile {p : Char → Bool} {s : Text} {c : Char}
    (h : (dropEndWhile p s).getLast? = some c) : p c = false := by
  rw [dropEndWhile, List.getLast?_reverse] at h
  exact not_of_head?_dropWhile h

/-- What is left without trailing characters is a beginning of the text. -/
theorem dropEndWhile_prefix (p : Char → Bool) (s : Text) : dropEndWhile p s <+: s := by
  have hsuffix := List.dropWhile_suffix p (l := s.reverse)
  simpa [dropEndWhile] using List.reverse_prefix.mpr hsuffix

theorem trimmed_trim (s : Text) : Trimmed (trim s) where
  head c hc := by
    have hstart : (trimStart s).head? = some c := by
      obtain ⟨r, hr⟩ := dropEndWhile_prefix isBlank (trimStart s)
      rw [trim, trimEnd] at hc
      rw [← hr, List.head?_append, hc, Option.some_or]
    exact not_of_head?_dropWhile hstart
  last c hc := getLast?_dropEndWhile hc

theorem trim_sublist (s : Text) : (trim s).Sublist s := by
  have hfront := dropEndWhile_prefix isBlank (trimStart s)
  exact hfront.sublist.trans (List.dropWhile_sublist isBlank)

theorem exists_eq_append_trim_append (s : Text) :
    ∃ g k, (∀ c ∈ g, isBlank c = true) ∧ (∀ c ∈ k, isBlank c = true) ∧ s = g ++ (trim s ++ k) := by
  obtain ⟨k, hk, hsplit⟩ := exists_eq_dropEndWhile_append isBlank (trimStart s)
  refine ⟨s.takeWhile isBlank, k, fun c hc => List.mem_takeWhile_imp hc, hk, ?_⟩
  rw [trim, trimEnd, ← hsplit, trimStart, List.takeWhile_append_dropWhile]

theorem head?_joinWords {w : Text} (hw : w ≠ []) (ws : List Text) :
    (joinWords (w :: ws)).head? = w.head? := by
  cases w with
  | nil => exact absurd rfl hw
  | cons c w => cases ws <;> rfl

theorem head?_joinLines {l : Text} (hl : l ≠ []) (ls : List Text) :
    (joinLines (l :: ls)).head? = l.head? := by
  cases l with
  | nil => exact absurd rfl hl
  | cons c l => cases ls <;> rfl

theorem getLast?_joinWords {w : Text} (hw : w ≠ []) (ws : List Text) :
    (joinWords (ws ++ [w])).getLast? = w.getLast? := by
  induction ws with
  | nil => rfl
  | cons v rest ih =>
      obtain ⟨next, rest', hrest⟩ : ∃ next rest', rest ++ [w] = next :: rest' :=
        List.exists_cons_of_ne_nil (by simp)
      rw [List.cons_append, hrest, joinWords, ← hrest, List.getLast?_append, List.getLast?_cons, ih]
      cases hlast : w.getLast? with
      | none => exact absurd (List.getLast?_eq_none_iff.mp hlast) hw
      | some c => simp

theorem getLast?_joinLines {l : Text} (hl : l ≠ []) (ls : List Text) :
    (joinLines (ls ++ [l])).getLast? = l.getLast? := by
  induction ls with
  | nil => rfl
  | cons k rest ih =>
      obtain ⟨next, rest', hrest⟩ : ∃ next rest', rest ++ [l] = next :: rest' :=
        List.exists_cons_of_ne_nil (by simp)
      rw [List.cons_append, hrest, joinLines, ← hrest, List.getLast?_append, List.getLast?_cons, ih]
      cases hlast : l.getLast? with
      | none => exact absurd (List.getLast?_eq_none_iff.mp hlast) hl
      | some c => simp

theorem trimmed_joinLines {ls : List (List Text)} (hne : ∀ ws ∈ ls, ws ≠ [])
    (hwords : ∀ ws ∈ ls, ∀ w ∈ ws, IsWord w) : Trimmed (joinLines (ls.map joinWords)) where
  head c hc := by
    cases ls with
    | nil => cases hc
    | cons ws rest =>
        obtain ⟨w, ws, rfl⟩ := List.exists_cons_of_ne_nil (hne ws List.mem_cons_self)
        have hw : IsWord w := hwords (w :: ws) List.mem_cons_self w List.mem_cons_self
        have hline : joinWords (w :: ws) ≠ [] := by
          intro hnil
          have hhead := head?_joinWords hw.ne_nil ws
          rw [hnil, List.head?_nil, eq_comm, List.head?_eq_none_iff] at hhead
          exact hw.ne_nil hhead
        rw [List.map_cons, head?_joinLines hline, head?_joinWords hw.ne_nil] at hc
        exact hw.not_blank c (List.mem_of_mem_head? hc)
  last c hc := by
    rcases List.eq_nil_or_concat' ls with rfl | ⟨rest, ws, rfl⟩
    · cases hc
    · have hws : ws ∈ rest ++ [ws] := List.mem_append_right _ (List.mem_singleton_self ws)
      obtain ⟨front, w, rfl⟩ := (List.eq_nil_or_concat' ws).resolve_left (hne ws hws)
      have hw : IsWord w := hwords _ hws w (by simp)
      have hline : joinWords (front ++ [w]) ≠ [] := by
        intro hnil
        have hlast := getLast?_joinWords hw.ne_nil front
        rw [hnil, List.getLast?_nil, eq_comm, List.getLast?_eq_none_iff] at hlast
        exact hw.ne_nil hlast
      rw [List.map_append, List.map_singleton, getLast?_joinLines hline,
        getLast?_joinWords hw.ne_nil] at hc
      exact hw.not_blank c (List.mem_of_mem_getLast? hc)

theorem lines_append_singleton {c : Char} (hc : c ≠ '\n') (s : Text) :
    ∃ ls l, lines (s ++ [c]) = ls ++ [l ++ [c]] := by
  induction s with
  | nil => exact ⟨[], [], by rw [List.nil_append, lines_of_not_mem (by simp [Ne.symm hc])]; rfl⟩
  | cons d s ih =>
      obtain ⟨ls, l, hs⟩ := ih
      by_cases hd : d = '\n'
      · subst hd
        exact ⟨[] :: ls, l, by rw [List.cons_append, lines_cons_break, hs, List.cons_append]⟩
      · rw [List.cons_append, lines_cons hd, hs]
        cases ls with
        | nil => exact ⟨[], d :: l, rfl⟩
        | cons k ls => exact ⟨(d :: k) :: ls, l, rfl⟩

theorem words_cons_of_cons {c d : Char} (hc : isBlank c = false) (hd : isBlank d = false)
    (s : Text) : words (c :: d :: s) = consFirst c (words (d :: s)) := by
  rw [words_cons hc, words_cons hd, List.takeWhile_cons_of_pos (by simp [hd]),
    List.dropWhile_cons_of_pos (by simp [hd]), consFirst]

theorem words_append_singleton {c : Char} (hc : isBlank c = false) (s : Text) :
    ∃ ws w, words (s ++ [c]) = ws ++ [w ++ [c]] := by
  induction s with
  | nil => exact ⟨[], [], by rw [List.nil_append, words_cons hc]; simp⟩
  | cons d s ih =>
      obtain ⟨ws, w, hs⟩ := ih
      by_cases hd : isBlank d = true
      · exact ⟨ws, w, by rw [List.cons_append, words_cons_blank hd, hs]⟩
      · rw [Bool.not_eq_true] at hd
        obtain ⟨e, r, hr⟩ : ∃ e r, s ++ [c] = e :: r := List.exists_cons_of_ne_nil (by simp)
        by_cases he : isBlank e = true
        · refine ⟨[d] :: ws, w, ?_⟩
          rw [List.cons_append, words_cons hd, hr, List.takeWhile_cons_of_neg (by simp [he]),
            List.dropWhile_cons_of_neg (by simp [he]), ← hr, hs, List.cons_append]
        · rw [Bool.not_eq_true] at he
          rw [List.cons_append, hr, words_cons_of_cons hd he, ← hr, hs]
          cases ws with
          | nil => exact ⟨[], d :: w, rfl⟩
          | cons v ws => exact ⟨(d :: v) :: ws, w, rfl⟩

theorem trimmed_collapseBlanks {s : Text} (h : Trimmed s) : Trimmed (collapseBlanks s) where
  head c hc := by
    cases s with
    | nil => simp [collapseBlanks, joinWords, joinLines] at hc
    | cons d s =>
        have hd : isBlank d = false := h.head d rfl
        have hbreak : d ≠ '\n' := by rintro rfl; cases hd
        obtain ⟨line, rest, hs⟩ := List.exists_cons_of_ne_nil (lines_ne_nil s)
        have hfirst : (joinWords (words (d :: line))).head? = some d := by
          rw [words_cons hd, head?_joinWords (by simp), List.head?_cons]
        have hne : joinWords (words (d :: line)) ≠ [] := by
          intro hnil
          rw [hnil] at hfirst
          cases hfirst
        rw [collapseBlanks, lines_cons hbreak, hs, consFirst, List.map_cons,
          head?_joinLines hne, hfirst] at hc
        cases hc
        exact hd
  last c hc := by
    rcases List.eq_nil_or_concat s with rfl | ⟨r, d, rfl⟩
    · simp [collapseBlanks, joinWords, joinLines] at hc
    · rw [List.concat_eq_append] at h hc
      have hd : isBlank d = false := h.last d (by simp)
      have hbreak : d ≠ '\n' := by rintro rfl; cases hd
      obtain ⟨ls, l, hlines⟩ := lines_append_singleton hbreak r
      obtain ⟨ws, w, hwords⟩ := words_append_singleton hd l
      have hlast : (joinWords (words (l ++ [d]))).getLast? = some d := by
        rw [hwords, getLast?_joinWords (by simp)]
        simp
      have hne : joinWords (words (l ++ [d])) ≠ [] := by
        intro hnil
        rw [hnil] at hlast
        cases hlast
      rw [collapseBlanks, hlines, List.map_append, List.map_singleton,
        getLast?_joinLines hne, hlast] at hc
      cases hc
      exact hd

/-- Trimming a text and collapsing its blanks a second time changes nothing. -/
theorem collapseBlanks_trim_idem (s : Text) :
    collapseBlanks (trim (collapseBlanks (trim s))) = collapseBlanks (trim s) := by
  rw [(trimmed_collapseBlanks (trimmed_trim s)).trim_eq, collapseBlanks_collapseBlanks]

end Text

end Tidymark
