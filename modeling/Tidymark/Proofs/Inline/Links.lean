import Tidymark.Inline.Link
import Tidymark.Proofs.Text.Pieces
import Tidymark.Proofs.Text.Spacing

/-!
# Links between other blanks

Brackets and parentheses make a link construct, and none of them is blank.
So what is read off the start of a text stays there when the text goes on
further behind it, or when other blanks stand in the place of its blanks.
-/

namespace Tidymark

namespace Link

def opening (image : Bool) : Text := if image then ['!', '['] else ['[']

theorem source_eq (l : Link) :
    l.source = opening l.image ++ (l.label ++ ']' :: '(' :: (l.destination ++ [')'])) := by
  cases himage : l.image <;> simp [source, opening, himage]

theorem readAfterBracket?_eq_some_iff {image : Bool} {s rest : Text} {l : Link} :
    readAfterBracket? image s = some (l, rest) ↔
      s = l.label ++ ']' :: '(' :: (l.destination ++ ')' :: rest) ∧
        l.image = image ∧ ']' ∉ l.label ∧ ')' ∉ l.destination := by
  constructor
  · intro h
    unfold readAfterBracket? at h
    split at h
    · next label t hlabel =>
        obtain ⟨⟨destination, r⟩, hdestination, heq⟩ := Option.map_eq_some_iff.mp h
        cases heq
        obtain ⟨rfl, hl⟩ := Text.splitAt?_eq_some_iff.mp hlabel
        obtain ⟨rfl, hd⟩ := Text.splitAt?_eq_some_iff.mp hdestination
        exact ⟨rfl, rfl, hl, hd⟩
    · cases h
  · rintro ⟨rfl, rfl, hl, hd⟩
    have hlabel : Text.splitAt? ']' (l.label ++ ']' :: '(' :: (l.destination ++ ')' :: rest)) =
        some (l.label, '(' :: (l.destination ++ ')' :: rest)) :=
      Text.splitAt?_eq_some_iff.mpr ⟨rfl, hl⟩
    have hdestination : Text.splitAt? ')' (l.destination ++ ')' :: rest) =
        some (l.destination, rest) :=
      Text.splitAt?_eq_some_iff.mpr ⟨rfl, hd⟩
    simp [readAfterBracket?, hlabel, hdestination]

theorem read?_opening (image : Bool) (s : Text) :
    read? (opening image ++ s) = readAfterBracket? image s := by
  cases image <;> rfl

/-- A link construct is read off the start of a text exactly if the text starts with it; its label
ends at the first closing bracket and its destination at the first closing parenthesis. -/
theorem read?_eq_some_iff {s rest : Text} {l : Link} :
    read? s = some (l, rest) ↔
      s = opening l.image ++ (l.label ++ ']' :: '(' :: (l.destination ++ ')' :: rest)) ∧
        ']' ∉ l.label ∧ ')' ∉ l.destination := by
  constructor
  · intro h
    have hread (image : Bool) {r : Text} (hr : readAfterBracket? image r = some (l, rest)) :
        opening image ++ r =
            opening l.image ++ (l.label ++ ']' :: '(' :: (l.destination ++ ')' :: rest)) ∧
          ']' ∉ l.label ∧ ')' ∉ l.destination := by
      obtain ⟨rfl, rfl, hl, hd⟩ := readAfterBracket?_eq_some_iff.mp hr
      exact ⟨rfl, hl, hd⟩
    unfold read? at h
    split at h
    · exact hread true h
    · exact hread false h
    · cases h
  · rintro ⟨rfl, hl, hd⟩
    rw [read?_opening, readAfterBracket?_eq_some_iff]
    exact ⟨rfl, rfl, hl, hd⟩

/-- A link construct is read whatever stands behind it. -/
theorem read?_append {s rest : Text} {l : Link} (h : read? s = some (l, rest)) (t : Text) :
    read? (s ++ t) = some (l, rest ++ t) := by
  obtain ⟨rfl, hl, hd⟩ := read?_eq_some_iff.mp h
  rw [read?_eq_some_iff]
  exact ⟨by simp, hl, hd⟩

theorem read?_source_append {s rest : Text} {l : Link} (h : read? s = some (l, rest)) (t : Text) :
    read? (l.source ++ t) = some (l, t) := by
  obtain ⟨_, hl, hd⟩ := read?_eq_some_iff.mp h
  rw [read?_eq_some_iff]
  exact ⟨by simp [source_eq], hl, hd⟩

/-- Other blanks in the place of blanks leave a link construct where it is. -/
theorem exists_read?_of_respaced {s t rest : Text} {l : Link} (h : Text.Respaced s t)
    (hs : read? s = some (l, rest)) :
    ∃ l' rest', read? t = some (l', rest') ∧ l'.image = l.image ∧
      Text.Respaced l.label l'.label ∧ Text.Respaced l.destination l'.destination ∧
      Text.Respaced rest rest' := by
  obtain ⟨rfl, hl, hd⟩ := read?_eq_some_iff.mp hs
  have hopening : ∀ c ∈ opening l.image, isBlank c = false := by
    cases l.image <;> simp [opening, isBlank]
  obtain ⟨t, rfl, hopened⟩ := h.exists_of_append_left hopening
  obtain ⟨label, t, rfl, hlabel, hclosed⟩ := hopened.exists_of_append_cons (c := ']') rfl
  obtain ⟨t, rfl, hlinked⟩ := hclosed.exists_of_append_left (a := ['(']) (by simp [isBlank])
  obtain ⟨destination, rest', rfl, hdestination, hrest⟩ :=
    hlinked.exists_of_append_cons (c := ')') rfl
  refine ⟨⟨l.image, label, destination⟩, rest', ?_, rfl, hlabel, hdestination, hrest⟩
  rw [read?_eq_some_iff]
  exact ⟨rfl, mt (hlabel.mem_iff rfl).mpr hl, mt (hdestination.mem_iff rfl).mpr hd⟩

/-- Where no link construct starts, none starts with other blanks or without the end of the text. -/
theorem read?_eq_none_of_respaced {s t trail : Text} (h : Text.Respaced s t)
    (hs : read? (s ++ trail) = none) : read? t = none := by
  rw [Option.eq_none_iff_forall_ne_some]
  rintro ⟨l, rest⟩ ht
  obtain ⟨l', rest', hl, _⟩ := exists_read?_of_respaced h.symm ht
  rw [read?_append hl trail] at hs
  cases hs

theorem read?_cons_blank {c : Char} (hc : isBlank c = true) (s : Text) : read? (c :: s) = none := by
  rw [Option.eq_none_iff_forall_ne_some]
  rintro ⟨l, rest⟩ h
  obtain ⟨heq, _⟩ := read?_eq_some_iff.mp h
  cases himage : l.image with
  | true =>
      rw [himage] at heq
      cases heq
      cases hc
  | false =>
      rw [himage] at heq
      cases heq
      cases hc

theorem read?_append_blanks {s g : Text} (hg : ∀ c ∈ g, isBlank c = true) (h : read? s = none) :
    read? (s ++ g) = none := by
  rw [Option.eq_none_iff_forall_ne_some]
  rintro ⟨l, rest⟩ hread
  have hsplit := source_of_read? hread
  rcases List.append_eq_append_iff.mp hsplit with ⟨x, hx, rfl⟩ | ⟨x, rfl, _⟩
  · -- The closing parenthesis would stand among the blanks, unless nothing of the link does.
    rcases List.eq_nil_or_concat' x with rfl | ⟨y, d, rfl⟩
    · rw [List.append_nil] at hx
      have hlink := read?_source_append hread []
      rw [List.append_nil, hx, h] at hlink
      cases hlink
    · have hlast : l.source.getLast? = some ')' := List.getLast?_concat
      rw [hx, ← List.append_assoc, List.getLast?_concat] at hlast
      cases hlast
      cases hg ')' (by simp)
  · rw [read?_source_append hread] at h
    cases h

/-! ## Everything found -/

/-- The same link construct with other blanks in the place of blanks. -/
structure Respaced (l l' : Link) : Prop where
  image_eq : l'.image = l.image
  label : Text.Respaced l.label l'.label
  destination : Text.Respaced l.destination l'.destination

theorem Respaced.source {l l' : Link} (h : Respaced l l') : Text.Respaced l.source l'.source := by
  rw [source_eq, source_eq, h.image_eq]
  exact (Text.Respaced.refl _).append
    (h.label.append (.char ']' (.char '(' (h.destination.append (.refl [')'])))))

theorem findAll_append_blanks_left {g : Text} (hg : ∀ c ∈ g, isBlank c = true) (s : Text) :
    pattern.findAll (g ++ s) = pattern.findAll s := by
  induction g with
  | nil => rfl
  | cons c g ih =>
      rw [List.forall_mem_cons] at hg
      have hread : pattern.read (c :: (g ++ s)) = none := read?_cons_blank hg.1 _
      rw [List.cons_append, Pattern.findAll_cons hread, ih hg.2]

theorem findAll_append_blanks_right (s : Text) {g : Text} (hg : ∀ c ∈ g, isBlank c = true) :
    pattern.findAll (s ++ g) = pattern.findAll s := by
  induction s using Pattern.pieces.induct (p := pattern) with
  | case1 => rw [List.nil_append, ← List.append_nil g, findAll_append_blanks_left hg]
  | case2 c s l rest hread ih =>
      have hlonger : pattern.read (c :: s ++ g) = some (l, rest ++ g) := read?_append hread g
      rw [Pattern.findAll_of_read hlonger, Pattern.findAll_of_read hread, ih]
  | case3 c s hread ih =>
      have hlonger : pattern.read (c :: (s ++ g)) = none := read?_append_blanks hg hread
      rw [List.cons_append, Pattern.findAll_cons hlonger, Pattern.findAll_cons hread, ih]

/-- Respacing a text respaces its links. -/
theorem findAll_of_respaced {s t : Text} (h : Text.Respaced s t) :
    List.Forall₂ Respaced (pattern.findAll s) (pattern.findAll t) := by
  induction s using Pattern.pieces.induct (p := pattern) generalizing t with
  | case1 =>
      rw [h.eq_nil, Pattern.findAll_nil]
      exact .nil
  | case2 c s l rest hread ih =>
      obtain ⟨l', rest', hread', himage, hlabel, hdestination, hrest⟩ :=
        exists_read?_of_respaced h hread
      have hfound : pattern.read t = some (l', rest') := hread'
      rw [Pattern.findAll_of_read hread, Pattern.findAll_of_read hfound]
      exact .cons ⟨himage, hlabel, hdestination⟩ (ih hrest)
  | case3 c s hread ih =>
      rw [Pattern.findAll_cons hread]
      generalize hu : c :: s = u at h
      cases h with
      | nil => cases hu
      | @char d s t h =>
          cases hu
          have hplain : read? (c :: s ++ []) = none := by
            rw [List.append_nil]
            exact hread
          have hnone : pattern.read (c :: t) = none :=
            read?_eq_none_of_respaced (.char c h) hplain
          rw [Pattern.findAll_cons hnone]
          exact ih h
      | @blanks g k u t hg hk hgs hks h =>
          obtain ⟨d, g, rfl⟩ := List.exists_cons_of_ne_nil hg
          cases hu
          rw [List.forall_mem_cons] at hgs
          by_cases hne : g = []
          · subst hne
            rw [findAll_append_blanks_left hks]
            exact ih h
          · exact ih (.blanks hne hk hgs.2 hks h)

/-- Texts with the same words have the same links but for blanks. -/
theorem findAll_of_words_eq {s t : Text} (h : Text.words s = Text.words t) :
    List.Forall₂ Respaced (pattern.findAll s) (pattern.findAll t) := by
  have hspace : ∀ c ∈ [' '], isBlank c = true := List.forall_mem_singleton.mpr rfl
  have hpadded (r : Text) : pattern.findAll (' ' :: r ++ [' ']) = pattern.findAll r := by
    rw [findAll_append_blanks_right _ hspace, ← List.singleton_append,
      findAll_append_blanks_left hspace]
  have hlinks := findAll_of_respaced (Text.words_eq_iff_respaced.mp h)
  rwa [hpadded, hpadded] at hlinks

theorem occursIn_eq_of_words_eq {s t : Text} (h : Text.words s = Text.words t) :
    pattern.occursIn s = pattern.occursIn t := by
  have hlength := (findAll_of_words_eq h).length_eq
  rw [Pattern.occursIn, Pattern.occursIn, Bool.not_inj_iff, Bool.eq_iff_iff,
    List.isEmpty_iff_length_eq_zero, List.isEmpty_iff_length_eq_zero, hlength]

end Link

end Tidymark
