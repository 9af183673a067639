import Tidymark.Proofs.Inline.LinkRanges
import Tidymark.Proofs.Reflow.TokenScan

/-!
# Tokens as runs

A character belongs to a token if it is not blank or stands in a link.  The
tokens of a text are the longest stretches of such characters, in order, and
what stands between two of them decides on the hard break of the first.
-/

namespace Tidymark

open Text (byteSize)

/-! ## Marks and ranges -/

namespace Marked

theorem size_map (x : Text) (linked : Bool) : size (x.map (⟨·, linked⟩)) = byteSize x := by
  simp [size, Function.comp_def]

theorem size_pos {ms : List Marked} (h : ms ≠ []) : 0 < size ms :=
  Text.byteSize_pos (by simpa using h)

theorem exists_ofText_eq {s x y z : Text} (h : s = x ++ (y ++ z)) :
    ∃ front word rear, ofText s = front ++ (word ++ rear) ∧
      front.map (·.char) = x ∧ word.map (·.char) = y ∧ rear.map (·.char) = z := by
  obtain ⟨front, tail, htext, hfront, htail⟩ :=
    List.map_eq_append_iff.mp ((chars_ofText s).trans h)
  obtain ⟨word, rear, rfl, hword, hrear⟩ := List.map_eq_append_iff.mp htail
  exact ⟨front, word, rear, htext, hfront, hword, hrear⟩

theorem inside_map {x : Text} {linked : Bool} {front z tail rear : List Marked} {m : Marked}
    (hx : x.map (⟨·, linked⟩) = front ++ z) (hz : z ≠ []) (hm : z ++ tail = m :: rear) :
    m.linked = linked ∧ size front < byteSize x := by
  obtain ⟨k, z, rfl⟩ := List.exists_cons_of_ne_nil hz
  obtain ⟨rfl, -⟩ := List.cons.inj hm
  have hmem : k ∈ x.map (⟨·, linked⟩ : Char → Marked) := by
    rw [hx]
    simp
  have hsize : byteSize x = size front + (k.char.utf8Size + size z) := by
    rw [← size_map x linked, hx, size_append, size_cons]
  have hpos := k.char.utf8Size_pos
  obtain ⟨c, -, rfl⟩ := List.mem_map.mp hmem
  exact ⟨rfl, by omega⟩

/-- A character is marked as linked exactly if the range of a link holds it. -/
theorem linked_ofPieces_iff {ps : List (Piece Link)} {front rear : List Marked} {m : Marked}
    (h : ofPieces ps = front ++ m :: rear) (offset : Nat) :
    m.linked = true ↔
      ∃ link ∈ Piece.spans Link.source offset ps, link.Holds (offset + size front) := by
  induction ps generalizing front offset with
  | nil => simp [ofPieces] at h
  | cons p ps ih =>
      cases p with
      | plain x =>
          rcases append_eq_append_cases h with ⟨y, rfl, hrest⟩ | ⟨z, hz, hx, hm⟩
          · rw [size_append, size_map, ← Nat.add_assoc]
            exact ih hrest _
          · -- All links stand behind the character.
            obtain ⟨hplain, hinside⟩ := inside_map hx hz hm
            refine iff_of_false (by simp [hplain]) ?_
            rintro ⟨link, hlink, hholds⟩
            have hahead := (Piece.pairwise_spans _ ps).2 link hlink
            have hstart := hholds.start_le
            omega
      | found l =>
          simp only [Piece.spans, List.mem_cons, exists_eq_or_imp]
          rcases append_eq_append_cases h with ⟨y, rfl, hrest⟩ | ⟨z, hz, hx, hm⟩
          · have hpast : ¬Span.Holds ⟨offset, offset + byteSize l.source⟩
                (offset + size (l.source.map (⟨·, true⟩) ++ y)) := by
              rintro ⟨-, hstop⟩
              simp only [size_append, size_map] at hstop
              omega
            rw [or_iff_right hpast, size_append, size_map, ← Nat.add_assoc]
            exact ih hrest _
          · obtain ⟨hlinked, hinside⟩ := inside_map hx hz hm
            exact iff_of_true hlinked (.inl ⟨Nat.le_add_right _ _, Nat.add_lt_add_left hinside _⟩)

end Marked

namespace TokenScan

open Token (endsEscaped)
open Marked (separates size)

/-- A character of a text that belongs to a token: it is not blank, or the range of a link holds it.
The text in front of it tells where it stands. -/
def Kept (s front : Text) (c : Char) : Prop :=
  isBlank c = false ∨ ∃ link ∈ Link.pattern.ranges s, link.Holds (byteSize front)

theorem kept_iff {s : Text} {front rear : List Marked} {m : Marked}
    (h : Marked.ofText s = front ++ m :: rear) :
    Kept s (front.map (·.char)) m.char ↔ m.separates = false := by
  have hlinked := Marked.linked_ofPieces_iff h 0
  rw [Nat.zero_add] at hlinked
  have hkept : Kept s (front.map (·.char)) m.char ↔ isBlank m.char = false ∨ m.linked = true :=
    or_congr_right hlinked.symm
  rw [hkept, separates]
  cases isBlank m.char <;> cases m.linked <;> simp

/-- A stretch of a text that can be made longer at neither end without a character that belongs to
no token. -/
structure MaximalRun (s front word rear : Text) : Prop where
  split : s = front ++ (word ++ rear)
  ne_nil : word ≠ []
  kept : ∀ x c y, word = x ++ c :: y → Kept s (front ++ x) c
  before : ∀ x c, front = x ++ [c] → ¬Kept s x c
  behind : ∀ c y, rear = c :: y → ¬Kept s (front ++ word) c

/-- A span of a maximal run. -/
def IsRun (s : Text) (span : Span) : Prop :=
  ∃ front word rear, MaximalRun s front word rear ∧
    span = ⟨byteSize front, byteSize (front ++ word)⟩

/-- The tokens found in a text are its maximal runs, in order. -/
structure Partition (s : Text) (found : List Found) : Prop where
  /-- Between two tokens stands something. -/
  ordered : found.Pairwise fun token next => token.span.stop < next.span.start
  /-- The tokens stand where the maximal runs stand. -/
  span_iff : ∀ span, (∃ token ∈ found, token.span = span) ↔ IsRun s span
  cuts : ∀ token ∈ found, token.span.Cuts s (s.cutOut token.span)
  text_ne_nil : ∀ token ∈ found, s.cutOut token.span ≠ []
  /-- Characters of no token are blank. -/
  blank : ∀ front c rear, s = front ++ c :: rear →
    (∀ token ∈ found, ¬token.span.Holds (byteSize front)) → isBlank c = true
  /-- Each link lies in one token. -/
  link : ∀ link ∈ Link.pattern.ranges s,
    ∃ token ∈ found, token.span.start ≤ link.start ∧ link.stop ≤ token.span.stop
  /-- A token makes a hard break exactly if another one follows, with a line feed between them, and
  it ends in an odd number of backslashes. -/
  hardBreak_iff : ∀ front token rear, found = front ++ token :: rear →
    (token.hardBreak = true ↔ ∃ next, rear.head? = some next ∧
      '\n' ∈ s.cutOut ⟨token.span.stop, next.span.start⟩ ∧
      endsEscaped (s.cutOut token.span) = true)

/-! ## Runs of marked characters -/

/-- Marked characters that make a token: none of them separates, and their neighbours do. -/
structure WordBetween (front word rear : List Marked) : Prop where
  ne_nil : word ≠ []
  kept : ∀ m ∈ word, m.separates = false
  before : ∀ m, front.getLast? = some m → m.separates = true
  behind : ∀ m, rear.head? = some m → m.separates = true

variable {s : Text} {front word rear front' word' rear' : List Marked}

theorem forall_kept_iff (h : Marked.ofText s = front ++ (word ++ rear)) :
    (∀ x c y, word.map (·.char) = x ++ c :: y → Kept s (front.map (·.char) ++ x) c) ↔
      ∀ m ∈ word, m.separates = false := by
  have hplace (x y : List Marked) (m : Marked) (hword : word = x ++ m :: y) :
      Kept s (front.map (·.char) ++ x.map (·.char)) m.char ↔ m.separates = false := by
    have hm : Marked.ofText s = (front ++ x) ++ m :: (y ++ rear) := by simp [h, hword]
    have hkept := kept_iff hm
    rwa [List.map_append] at hkept
  constructor
  · intro hkept m hm
    obtain ⟨x, y, hword⟩ := List.append_of_mem hm
    exact (hplace x y m hword).mp (hkept _ _ (y.map (·.char)) (by simp [hword]))
  · intro hkept x c y hx
    obtain ⟨x, z, hword, rfl, hz⟩ := List.map_eq_append_iff.mp hx
    obtain ⟨m, y, rfl, rfl, rfl⟩ := List.map_eq_cons_iff.mp hz
    exact (hplace x y m hword).mpr (hkept m (by simp [hword]))

theorem forall_before_iff {rest : List Marked} (h : Marked.ofText s = front ++ rest) :
    (∀ x c, front.map (·.char) = x ++ [c] → ¬Kept s x c) ↔
      ∀ m, front.getLast? = some m → m.separates = true := by
  have hplace (x : List Marked) (m : Marked) (hfront : front = x ++ [m]) :
      ¬Kept s (x.map (·.char)) m.char ↔ m.separates = true := by
    have hm : Marked.ofText s = x ++ m :: rest := by simp [h, hfront]
    rw [kept_iff hm, Bool.not_eq_false]
  constructor
  · intro hbefore m hm
    obtain ⟨x, hfront⟩ := List.getLast?_eq_some_iff.mp hm
    exact (hplace x m hfront).mp (hbefore _ _ (by simp [hfront]))
  · intro hbefore x c hx
    obtain ⟨x, z, hfront, rfl, hz⟩ := List.map_eq_append_iff.mp hx
    obtain ⟨m, rfl, rfl⟩ := List.map_eq_singleton_iff.mp hz
    exact (hplace x m hfront).mpr (hbefore m (by simp [hfront]))

theorem forall_behind_iff (h : Marked.ofText s = front ++ rear) :
    (∀ c y, rear.map (·.char) = c :: y → ¬Kept s (front.map (·.char)) c) ↔
      ∀ m, rear.head? = some m → m.separates = true := by
  have hplace (m : Marked) (y : List Marked) (hrear : rear = m :: y) :
      ¬Kept s (front.map (·.char)) m.char ↔ m.separates = true := by
    have hm : Marked.ofText s = front ++ m :: y := by simp [h, hrear]
    rw [kept_iff hm, Bool.not_eq_false]
  constructor
  · intro hbehind m hm
    obtain ⟨y, hrear⟩ := List.head?_eq_some_iff.mp hm
    exact (hplace m y hrear).mp (hbehind _ (y.map (·.char)) (by simp [hrear]))
  · intro hbehind c y hy
    obtain ⟨m, y, hrear, rfl, rfl⟩ := List.map_eq_cons_iff.mp hy
    exact (hplace m y hrear).mpr (hbehind m (by simp [hrear]))

theorem maximalRun_iff (h : Marked.ofText s = front ++ (word ++ rear)) :
    MaximalRun s (front.map (·.char)) (word.map (·.char)) (rear.map (·.char)) ↔
      WordBetween front word rear := by
  have hchars : s = front.map (·.char) ++ (word.map (·.char) ++ rear.map (·.char)) := by
    rw [← List.map_append, ← List.map_append, ← h, Marked.chars_ofText]
  have hbehind := forall_behind_iff (h.trans (List.append_assoc _ _ _).symm)
  rw [List.map_append] at hbehind
  constructor
  · intro hrun
    exact ⟨by simpa using hrun.ne_nil, (forall_kept_iff h).mp hrun.kept,
      (forall_before_iff h).mp hrun.before, hbehind.mp hrun.behind⟩
  · intro hword
    exact ⟨hchars, by simpa using hword.ne_nil, (forall_kept_iff h).mpr hword.kept,
      (forall_before_iff h).mpr hword.before, hbehind.mpr hword.behind⟩

/-- Maximal runs of a text are those of its marked characters. -/
theorem isRun_iff {span : Span} :
    IsRun s span ↔ ∃ front word rear, Marked.ofText s = front ++ (word ++ rear) ∧
      WordBetween front word rear ∧ span = ⟨size front, size (front ++ word)⟩ := by
  constructor
  · rintro ⟨front, word, rear, hrun, rfl⟩
    obtain ⟨front, word, rear, htext, rfl, rfl, rfl⟩ := Marked.exists_ofText_eq hrun.split
    exact ⟨front, word, rear, htext, (maximalRun_iff htext).mp hrun, by simp [size]⟩
  · rintro ⟨front, word, rear, htext, hword, rfl⟩
    exact ⟨_, _, _, (maximalRun_iff htext).mpr hword, by simp [size]⟩

theorem IsRun.exists_cuts {span : Span} (h : IsRun s span) :
    ∃ word, word ≠ [] ∧ span.Cuts s word := by
  obtain ⟨front, word, rear, hrun, hspan⟩ := h
  exact ⟨word, hrun.ne_nil, front, rear, by rw [hrun.split, List.append_assoc], hspan⟩

theorem WordBetween.size_le (h : WordBetween front word rear) {y : List Marked} (hy : y ≠ [])
    (h' : WordBetween (front ++ y) word' rear') (heq : word ++ rear = y ++ (word' ++ rear')) :
    size (front ++ word) ≤ size (front ++ y) := by
  rcases append_eq_append_cases heq with ⟨z, rfl, -⟩ | ⟨z, -, rfl, -⟩
  · simp only [Marked.size_append]
    omega
  · -- What stands in front of the other run separates, and would belong to this one.
    obtain ⟨y, k, rfl⟩ := y.eq_nil_or_concat.resolve_left hy
    have hsep := h'.before k (by simp)
    have hkept := h.kept k (by simp)
    cases hsep.symm.trans hkept

/-- Runs of the same characters with a byte in common are the same. -/
theorem WordBetween.eq_of_holds (h : WordBetween front word rear)
    (h' : WordBetween front' word' rear')
    (heq : front ++ (word ++ rear) = front' ++ (word' ++ rear')) {offset : Nat}
    (hin : Span.Holds ⟨size front, size (front ++ word)⟩ offset)
    (hin' : Span.Holds ⟨size front', size (front' ++ word')⟩ offset) :
    front = front' ∧ word = word' := by
  obtain ⟨hstart, hstop⟩ := hin
  obtain ⟨hstart', hstop'⟩ := hin'
  dsimp only at hstart hstop hstart' hstop'
  rcases append_eq_append_cases heq with ⟨y, rfl, hy⟩ | ⟨z, hz, rfl, hrest⟩
  · by_cases hne : y = []
    · subst hne
      have hkept : ∀ m ∈ word, (!m.separates) = true := by simpa using h.kept
      have hkept' : ∀ m ∈ word', (!m.separates) = true := by simpa using h'.kept
      have hword := takeWhile_append_of_stop hkept (by simpa using h.behind)
      rw [hy, List.nil_append, takeWhile_append_of_stop hkept' (by simpa using h'.behind)] at hword
      exact ⟨(List.append_nil front).symm, hword.symm⟩
    · have hle := h.size_le hne h' hy
      omega
  · have hle := h'.size_le hz h hrest.symm
    omega

/-! ## The words between the gaps -/

variable {ms : List Marked} {found : List Found}

theorem Parted.exists_word (h : Parted front ms found)
    (hedge : ∀ m k, front.getLast? = some m → ms.head? = some k →
      m.separates = true ∨ k.separates = true) :
    ∀ token ∈ found, ∃ f w r, front ++ ms = f ++ (w ++ r) ∧ WordBetween f w r ∧
      token.span = ⟨size f, size (f ++ w)⟩ := by
  induction h with
  | trail => exact fun token htoken => absurd htoken List.not_mem_nil
  | @word front gap word rest found hgap hne hword hstop _ ih =>
      have hbefore : ∀ m, (front ++ gap).getLast? = some m → m.separates = true := by
        intro m hm
        by_cases hnil : gap = []
        · subst hnil
          obtain ⟨k, word, rfl⟩ := List.exists_cons_of_ne_nil hne
          rw [List.append_nil] at hm
          exact (hedge m k hm rfl).resolve_right (by simp [hword k List.mem_cons_self])
        · rw [List.getLast?_append_of_ne_nil _ hnil] at hm
          exact hgap m (List.mem_of_getLast? hm)
      have hrest := ih fun m k _ hk => .inr (hstop k hk)
      simp only [List.append_assoc] at hrest ⊢
      intro token htoken
      rcases List.mem_cons.mp htoken with rfl | htoken
      · exact ⟨front ++ gap, word, rest, by simp, ⟨hne, hword, hbefore, hstop⟩, by simp⟩
      · exact hrest token htoken

theorem Parted.exists_around (h : Parted front ms found) {x z y : List Marked}
    (hms : ms = x ++ (z ++ y)) (hne : z ≠ []) (hz : ∀ m ∈ z, m.separates = false) :
    ∃ token ∈ found, token.span.start ≤ size (front ++ x) ∧
      size (front ++ x ++ z) ≤ token.span.stop := by
  obtain ⟨m, z, rfl⟩ := List.exists_cons_of_ne_nil hne
  have hm := hz m List.mem_cons_self
  induction h generalizing x with
  | trail htrail =>
      have hsep := htrail m (by simp [hms])
      cases hm.symm.trans hsep
  | @word front gap word rest found hgap _ hword hstop _ ih =>
      rcases append_eq_append_cases hms with ⟨x, rfl, hx⟩ | ⟨g, hg, rfl, hx⟩
      · rcases append_eq_append_cases hx with ⟨x, rfl, hrest⟩ | ⟨w, hw, rfl, hw'⟩
        · obtain ⟨token, htoken, haround⟩ := ih hrest
          simp only [List.append_assoc] at haround ⊢
          exact ⟨token, List.mem_cons_of_mem _ htoken, haround⟩
        · refine ⟨_, List.mem_cons_self, by simp, ?_⟩
          rcases append_eq_append_cases hw' with ⟨z', hz', hrest⟩ | ⟨z', -, rfl, -⟩
          · -- Nothing of the stretch stands behind the word.
            cases z' with
            | nil => simp [hz']
            | cons k z' =>
                have hsep := hstop k (by simp [hrest])
                have hkept := hz k (by simp [hz'])
                cases hkept.symm.trans hsep
          · simp
      · obtain ⟨k, g, rfl⟩ := List.exists_cons_of_ne_nil hg
        obtain ⟨rfl, -⟩ := List.cons.inj hx
        have hsep := hgap k (by simp)
        cases hm.symm.trans hsep

/-- If a blank comes first, no token starts at once. -/
theorem Parted.size_lt_start (h : Parted front ms found)
    (hfirst : ∀ m, ms.head? = some m → m.separates = true) :
    ∀ token ∈ found, size front < token.span.start := by
  induction h with
  | trail => exact fun token htoken => absurd htoken List.not_mem_nil
  | @word front gap word rest found _ hne hword hstop _ ih =>
      have hgap : gap ≠ [] := by
        rintro rfl
        obtain ⟨k, word, rfl⟩ := List.exists_cons_of_ne_nil hne
        cases (hfirst k rfl).symm.trans (hword k List.mem_cons_self)
      have hpos := Marked.size_pos hgap
      have hrest := ih hstop
      intro token htoken
      rcases List.mem_cons.mp htoken with rfl | htoken
      · simp [hpos]
      · have hlt := hrest token htoken
        simp only [Marked.size_append] at hlt
        omega

theorem Parted.ordered (h : Parted front ms found) :
    found.Pairwise fun token next => token.span.stop < next.span.start := by
  induction h with
  | trail => exact .nil
  | word _ _ _ hstop h ih => exact .cons (h.size_lt_start hstop) ih

/-- The words between the gaps are the tokens. -/
theorem Parted.map_token (h : Parted front ms found) (hs : s = (front ++ ms).map (·.char)) :
    found.map (Found.token s) = Token.ofMarked ms := by
  induction h with
  | trail htrail => exact (Token.ofMarked_eq_nil_iff.mpr htrail).symm
  | @word front gap word rest found hgap hne hword hstop _ ih =>
      have hcut := cutOut_word hs
      have hrest : s = (front ++ gap ++ word ++ rest).map (·.char) := by simp [hs]
      rw [Token.ofMarked_append_gap hgap, Token.ofMarked_append hne hword hstop, List.map_cons,
        ih hrest, Found.token, hcut]
      rfl

theorem Parted.hardBreak_iff (h : Parted front ms found) (hs : s = (front ++ ms).map (·.char))
    {before after : List Found} {token : Found} (hfound : found = before ++ token :: after) :
    token.hardBreak = true ↔ ∃ next, after.head? = some next ∧
      '\n' ∈ s.cutOut ⟨token.span.stop, next.span.start⟩ ∧
      endsEscaped (s.cutOut token.span) = true := by
  induction h generalizing before with
  | trail => simp at hfound
  | @word front gap word rest found hgap hne hword hstop h ih =>
      cases before with
      | cons b before =>
          obtain ⟨-, hfound⟩ := List.cons.inj hfound
          exact ih (by simp [hs]) hfound
      | nil =>
          obtain ⟨rfl, rfl⟩ := List.cons.inj hfound
          have hcut := cutOut_word hs
          cases h with
          | trail htrail => simp [breaksBetween, List.dropWhile_eq_nil_iff.mpr htrail]
          | @word _ gap' word' rest' _ hgap' hne' hword' _ _ =>
              have hbetween : s.cutOut ⟨size (front ++ gap ++ word),
                  size (front ++ gap ++ word ++ gap')⟩ = gap'.map (·.char) := by
                have hsplit : s = (front ++ gap ++ (word ++ (gap' ++ (word' ++ rest')))).map
                    (·.char) := by simp [hs]
                exact cutOut_word hsplit
              have hbreaks : breaksBetween word (gap' ++ (word' ++ rest')) =
                  (gap'.any (·.char == '\n') && endsEscaped (word.map (·.char))) := by
                have hnext : (word' ++ rest').isEmpty = false := by simp [hne']
                rw [breaksBetween, dropWhile_gap hgap' hne' hword',
                  takeWhile_gap hgap' hne' hword', hnext, Bool.not_false, Bool.true_and]
              simp only [List.head?_cons, Option.some.injEq, exists_eq_left', hcut, hbetween,
                hbreaks]
              simp

/-! ## The partition -/

theorem Parted.span_iff (h : Parted [] (Marked.ofText s) found) (span : Span) :
    (∃ token ∈ found, token.span = span) ↔ IsRun s span := by
  have hwords := h.exists_word (by simp)
  rw [isRun_iff]
  constructor
  · rintro ⟨token, htoken, rfl⟩
    exact hwords token htoken
  · rintro ⟨front, word, rear, htext, hword, rfl⟩
    obtain ⟨token, htoken, hstart, hstop⟩ := h.exists_around htext hword.ne_nil hword.kept
    obtain ⟨f, w, r, hsplit, hrun, hspan⟩ := hwords token htoken
    have hpos := Marked.size_pos hword.ne_nil
    have hin : Span.Holds ⟨size front, size (front ++ word)⟩ (size front) :=
      ⟨Nat.le_refl _, by simp [hpos]⟩
    have hin' : token.span.Holds (size front) := ⟨hstart, Nat.lt_of_lt_of_le hin.lt_stop hstop⟩
    rw [hspan] at hin'
    obtain ⟨rfl, rfl⟩ := hword.eq_of_holds hrun (htext.symm.trans hsplit) hin hin'
    exact ⟨token, htoken, hspan⟩

/-- Characters of no token are blank. -/
theorem Parted.isBlank_of_outside (h : Parted [] (Marked.ofText s) found) {front rear : Text}
    {c : Char} (hs : s = front ++ c :: rear)
    (hout : ∀ token ∈ found, ¬token.span.Holds (byteSize front)) : isBlank c = true := by
  obtain ⟨front, word, rear, htext, rfl, hword, -⟩ := Marked.exists_ofText_eq (y := [c]) hs
  obtain ⟨m, rfl, rfl⟩ := List.map_eq_singleton_iff.mp hword
  refine Marked.isBlank_of_separates ?_
  by_contra hkept
  obtain ⟨token, htoken, hstart, hstop⟩ :=
    h.exists_around (z := [m]) htext (List.cons_ne_nil _ _) (by simpa using hkept)
  have hlt : size front < size (front ++ [m]) := by simp [m.char.utf8Size_pos]
  exact hout token htoken ⟨hstart, Nat.lt_of_lt_of_le hlt hstop⟩

theorem exists_link {link : Span} (hlink : link ∈ Link.pattern.ranges s) :
    ∃ front word rear, Marked.ofText s = front ++ (word ++ rear) ∧ word ≠ [] ∧
      (∀ m ∈ word, m.separates = false) ∧ link = ⟨size front, size (front ++ word)⟩ := by
  obtain ⟨part, ⟨before, after, hs, hspan⟩, hform⟩ := Link.exists_hasForm_of_mem_ranges s link hlink
  rw [List.append_assoc] at hs
  obtain ⟨front, word, rear, htext, rfl, rfl, rfl⟩ := Marked.exists_ofText_eq hs
  have hbytes : link = ⟨size front, size (front ++ word)⟩ := by
    rw [hspan, ← List.map_append]
    rfl
  refine ⟨front, word, rear, htext, by simpa using hform.ne_nil, fun m hm => ?_, hbytes⟩
  obtain ⟨x, y, rfl⟩ := List.append_of_mem hm
  have hplace : Marked.ofText s = front ++ x ++ m :: (y ++ rear) := by simp [htext]
  have hholds : link.Holds (size (front ++ x)) := by
    have hpos := m.char.utf8Size_pos
    rw [hbytes]
    constructor
    · simp
    · simp only [Marked.size_append, Marked.size_cons]
      omega
  exact (kept_iff hplace).mp (.inr ⟨link, hlink, hholds⟩)

/-- The words between the gaps partition the text. -/
theorem Parted.partition (h : Parted [] (Marked.ofText s) found) : Partition s found where
  ordered := h.ordered
  span_iff := h.span_iff
  cuts token htoken := by
    obtain ⟨word, -, hcuts⟩ := ((h.span_iff _).mp ⟨token, htoken, rfl⟩).exists_cuts
    rwa [Text.cutOut_of_cuts hcuts]
  text_ne_nil token htoken := by
    obtain ⟨word, hne, hcuts⟩ := ((h.span_iff _).mp ⟨token, htoken, rfl⟩).exists_cuts
    rwa [Text.cutOut_of_cuts hcuts]
  blank front c rear hs hout := h.isBlank_of_outside hs hout
  link link hlink := by
    obtain ⟨front, word, rear, htext, hne, hkept, rfl⟩ := exists_link hlink
    exact h.exists_around htext hne hkept
  hardBreak_iff before token after hfound :=
    h.hardBreak_iff (Marked.chars_ofText s).symm hfound

/-- The pass finds the tokens of a text, and they partition it. -/
theorem scan_partitions (s : Text) :
    (scan s).map (Found.token s) = Token.ofText s ∧ Partition s (scan s) :=
  ⟨(parted_scan s).map_token (Marked.chars_ofText s).symm, (parted_scan s).partition⟩

example : scan "a[b c](d)[e](f) g\\\t\n h\\ ".toList =
    [⟨⟨0, 15⟩, false⟩, ⟨⟨16, 18⟩, true⟩, ⟨⟨21, 23⟩, false⟩] := by
  decide +kernel

end TokenScan

end Tidymark
