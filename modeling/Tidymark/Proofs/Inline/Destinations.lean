import Tidymark.Proofs.Inline.Links
import Tidymark.Proofs.Inline.Regions
import Tidymark.Proofs.Text.Correspondence

/-!
# Link destinations

Cleaning up plain prose leaves its link constructs where they are.  Two things
reach into a destination: a label in it may be trimmed, and emphasis may be
found in it when a guarded stretch takes in its beginning and not its end.
-/

namespace Tidymark

open Text (Starred Tightened)

/-- No blank stands behind an opening bracket or in front of a closing one. -/
def Text.Snug (s : Text) : Prop :=
  s.IsChain fun x y => (x = '[' → isBlank y = false) ∧ (y = ']' → isBlank x = false)

instance (s : Text) : Decidable s.Snug := inferInstanceAs (Decidable (List.IsChain _ s))

namespace Guarded

/-- A stretch with the beginning of a destination has its end. -/
def Whole : Text → Prop
  | [] => True
  | c :: s => ([']', '('] <+: c :: s → ')' ∈ s) ∧ Whole s

instance decidableWhole : (s : Text) → Decidable (Whole s)
  | [] => isTrue trivial
  | _ :: s =>
      have := decidableWhole s
      inferInstanceAs (Decidable (_ ∧ Whole s))

theorem Whole.mem {front s : Text} (h : Whole (front ++ ']' :: '(' :: s)) : ')' ∈ s := by
  induction front with
  | nil => simpa using h.1 (List.prefix_append [']', '('] s)
  | cons c front ih => exact ih h.2

end Guarded

/-! ## Around one character -/

namespace Text

variable {k : Reach} {p c x : Char} {s t a : Text}

theorem Tightened.exists_of_append_cons (h : Tightened k p (a ++ c :: s) t)
    (hc : isBlank c = false) :
    ∃ a' d t', t = a' ++ d :: t' ∧ Tidied a a' ∧ Starred k c d ∧ Tightened k d s t' := by
  induction a generalizing p t with
  | nil =>
      obtain ⟨d, t', rfl, hcd, hrest⟩ := h.exists_of_cons hc
      exact ⟨[], d, t', rfl, .nil, hcd, hrest⟩
  | cons x a ih =>
      rw [List.cons_append] at h
      cases h with
      | char hxy h =>
          obtain ⟨a', d, t', rfl, ha, hcd, hrest⟩ := ih h
          exact ⟨_ :: a', d, t', rfl, hxy.tidied_cons ha, hcd, hrest⟩
      | drop hb hseam h =>
          obtain ⟨a', d, t', heq, ha, hcd, hrest⟩ := ih h
          exact ⟨a', d, t', heq, .drop hb ha, hcd, hrest⟩

/-- What stands in front of a character that is kept was in front of it. -/
theorem Tightened.exists_of_append_cons_right (h : Tightened k p s (a ++ c :: t)) :
    ∃ a' d s', s = a' ++ d :: s' ∧ Tidied a' a ∧ Starred k d c ∧ Tightened k c s' t := by
  obtain ⟨s₁, s₂, rfl, hfront, hback⟩ := h.exists_of_append
  obtain ⟨g, d, s', rfl, hg, -, hdc, hrest⟩ := hback.exists_of_cons_right
  refine ⟨s₁ ++ g, d, s', by rw [List.append_assoc], ?_, hdc, hrest⟩
  have htidied := hfront.tidied.append (.of_blanks hg)
  rwa [List.append_nil] at htidied

theorem Tightened.exists_of_snug (h : Tightened .labels p (a ++ c :: s) t)
    (hc : isBlank c = false) (hclosing : c ≠ ']') (hsnug : Snug (p :: a)) :
    ∃ t', t = a ++ c :: t' ∧ Tightened .labels c s t' := by
  induction a generalizing p t with
  | nil =>
      obtain ⟨d, t', rfl, hcd, hrest⟩ := h.exists_of_cons hc
      cases hcd.eq_of_labels
      exact ⟨t', rfl, hrest⟩
  | cons x a ih =>
      rw [Snug, List.isChain_cons_cons] at hsnug
      rw [List.cons_append] at h
      cases h with
      | char hxy h =>
          cases hxy.eq_of_labels
          obtain ⟨t', rfl, hrest⟩ := ih h hsnug.2
          exact ⟨t', rfl, hrest⟩
      | drop hb hseam h =>
          have hp : p ≠ '[' := by
            intro hp
            rw [hsnug.1.1 hp] at hb
            cases hb
          have hfront : Snug (p :: a) := by
            cases a with
            | nil => exact .singleton p
            | cons z a =>
                rw [List.isChain_cons_cons] at hsnug
                rw [Snug, List.isChain_cons_cons]
                exact ⟨⟨fun h => absurd h hp, fun _ => hseam.left_not_blank⟩, hsnug.2.2⟩
          obtain ⟨t', heq, -⟩ := ih h hfront
          cases hseam with
          | opening => exact absurd rfl hp
          | closing =>
              cases a with
              | nil =>
                  cases heq
                  exact absurd rfl hclosing
              | cons z a =>
                  cases heq
                  rw [List.isChain_cons_cons] at hsnug
                  rw [hsnug.2.1.2 rfl] at hb
                  cases hb

theorem Snug.cons_parenthesis (h : Snug s) : Snug ('(' :: s) := by
  cases s with
  | nil => exact .singleton '('
  | cons c s =>
      rw [Snug, List.isChain_cons_cons]
      exact ⟨⟨fun h => absurd h (by decide), fun _ => rfl⟩, h⟩

end Text

namespace Link

variable {k : Text.Reach} {p : Char} {s t rest : Text} {l : Link}

/-- A link construct with another label and another destination, both tidied. -/
structure Tidied (l l' : Link) : Prop where
  image_eq : l'.image = l.image
  label : l.label.Tidied l'.label
  destination : l.destination.Tidied l'.destination

theorem Tidied.mem_label_iff {l l' : Link} (h : l.Tidied l') : ']' ∈ l.label ↔ ']' ∈ l'.label :=
  h.label.mem_iff rfl (by decide) (by decide)

theorem Tidied.mem_destination_iff {l l' : Link} (h : l.Tidied l') :
    ')' ∈ l.destination ↔ ')' ∈ l'.destination :=
  h.destination.mem_iff rfl (by decide) (by decide)

theorem Tidied.trans {l l' l'' : Link} (h : l.Tidied l') (h' : l'.Tidied l'') : l.Tidied l'' :=
  ⟨h'.image_eq.trans h.image_eq, h.label.trans h'.label, h.destination.trans h'.destination⟩

/-! ## Reading tightened texts -/

theorem exists_of_opening_append {image : Bool} (h : Tightened .labels p (opening image ++ s) t) :
    ∃ t', t = opening image ++ t' ∧ Tightened .labels '[' s t' := by
  cases image with
  | false =>
      obtain ⟨c, t, rfl, hc, h⟩ := h.exists_of_cons rfl
      cases hc.eq_of_labels
      exact ⟨t, rfl, h⟩
  | true =>
      obtain ⟨c, t, rfl, hc, h⟩ := h.exists_of_cons rfl
      cases hc.eq_of_labels
      obtain ⟨c, t, rfl, hc, h⟩ := h.exists_of_cons rfl
      cases hc.eq_of_labels
      exact ⟨t, rfl, h⟩

theorem exists_of_opening_append_right {image : Bool} {c d : Char} {u : Text}
    (hcd : Starred k c d) (h : Tightened k d s t) (ht : d :: t = opening image ++ u) :
    ∃ s', c :: s = opening image ++ s' ∧ Tightened k '[' s' u := by
  cases image with
  | false =>
      cases ht
      cases hcd.eq_of_ne_star (by decide)
      exact ⟨s, rfl, h⟩
  | true =>
      cases ht
      cases hcd.eq_of_ne_star (by decide)
      obtain ⟨x, s, rfl, hx, hrest⟩ := h.exists_of_no_seam fun hseam => by cases hseam
      cases hx.eq_of_ne_star (by decide)
      exact ⟨s, rfl, hrest⟩

/-- A link construct is read where labels have been trimmed, and where its destination has no
blanks next to brackets it is the same. -/
theorem exists_read?_of_labels (h : Tightened .labels p s t) (hs : read? s = some (l, rest)) :
    ∃ l' rest', read? t = some (l', rest') ∧
      (l.Tidied l' ∧ (l.destination.Snug → l'.destination = l.destination)) ∧
      Tightened .labels ')' rest rest' := by
  obtain ⟨rfl, hl, hd⟩ := read?_eq_some_iff.mp hs
  obtain ⟨t, rfl, hopened⟩ := exists_of_opening_append h
  obtain ⟨label, c, t, rfl, hlabel, hc, hclosed⟩ := hopened.exists_of_append_cons rfl
  cases hc.eq_of_labels
  obtain ⟨c, t, rfl, hc, hlinked⟩ := hclosed.exists_of_cons rfl
  cases hc.eq_of_labels
  have hdestination : ∃ destination t', t = destination ++ ')' :: t' ∧
      l.destination.Tidied destination ∧ (l.destination.Snug → destination = l.destination) ∧
      Tightened .labels ')' rest t' := by
    by_cases hsnug : l.destination.Snug
    · obtain ⟨t', rfl, hrest⟩ := hlinked.exists_of_snug rfl (by decide) hsnug.cons_parenthesis
      exact ⟨l.destination, t', rfl, .refl _, fun _ => rfl, hrest⟩
    · obtain ⟨destination, c, t', rfl, htidied, hc, hrest⟩ := hlinked.exists_of_append_cons rfl
      cases hc.eq_of_labels
      exact ⟨destination, t', rfl, htidied, fun h => absurd h hsnug, hrest⟩
  obtain ⟨destination, t, rfl, htidied, hkept, hrest⟩ := hdestination
  have hlink : l.Tidied ⟨l.image, label, destination⟩ := ⟨rfl, hlabel, htidied⟩
  refine ⟨_, t, ?_, ⟨hlink, hkept⟩, hrest⟩
  rw [read?_eq_some_iff]
  exact ⟨rfl, mt hlink.mem_label_iff.mpr hl, mt hlink.mem_destination_iff.mpr hd⟩

theorem read?_eq_none_of_tightened {c d : Char} (hcd : Starred k c d) (h : Tightened k d s t)
    (hs : read? (c :: s) = none) : read? (d :: t) = none := by
  rw [Option.eq_none_iff_forall_ne_some]
  rintro ⟨l, rest⟩ ht
  obtain ⟨heq, hl, hd⟩ := read?_eq_some_iff.mp ht
  obtain ⟨u, hopening, hopened⟩ := exists_of_opening_append_right hcd h heq
  obtain ⟨label, x, u, rfl, hlabel, hx, hclosed⟩ := hopened.exists_of_append_cons_right
  cases hx.eq_of_ne_star (by decide)
  obtain ⟨x, u, rfl, hx, hlinked⟩ := hclosed.exists_of_no_seam fun hseam => by cases hseam
  cases hx.eq_of_ne_star (by decide)
  obtain ⟨destination, x, u, rfl, htidied, hx, -⟩ := hlinked.exists_of_append_cons_right
  cases hx.eq_of_ne_star (by decide)
  have hlink : Tidied ⟨l.image, label, destination⟩ l := ⟨rfl, hlabel, htidied⟩
  have hread : read? (c :: s) = some (⟨l.image, label, destination⟩, u) := by
    rw [hopening, read?_eq_some_iff]
    exact ⟨rfl, mt hlink.mem_label_iff.mp hl, mt hlink.mem_destination_iff.mp hd⟩
  rw [hs] at hread
  cases hread

/-- Trimming labels keeps the link constructs. -/
theorem findAll_trimAll (s : Text) :
    List.Forall₂ (fun l l' => l.Tidied l' ∧
        (l.destination.Snug → l'.destination = l.destination))
      (pattern.findAll s) (pattern.findAll (PaddedLabel.trimAll s)) := by
  refine pattern.forall₂_findAll (R := fun s t => ∃ p, Tightened .labels p s t) ?_ ?_ ?_
    ⟨' ', PaddedLabel.tightened_trimAll s ' '⟩
  · rintro t ⟨p, h⟩
    exact h.eq_nil_right
  · rintro s t l rest ⟨p, h⟩ hread
    obtain ⟨l', rest', hread', hl, hrest⟩ := exists_read?_of_labels h hread
    exact ⟨l', rest', hread', hl, ')', hrest⟩
  · rintro c s t ⟨p, h⟩ hnone
    cases h with
    | char hcd h => exact .inr ⟨_, _, rfl, read?_eq_none_of_tightened hcd h hnone, _, h⟩
    | drop _ _ h => exact .inl ⟨p, h⟩

end Link

/-! ## Guarded destinations -/

namespace Guarded

variable {f s t front d behind rest : Text}

/-- A guarded stretch ends with a bracket of its own, or a blank stands behind it. -/
theorem stops_of_cut? (h : cut? s = some (f, rest)) :
    f.getLast? = some ')' ∨ f.getLast? = some '>' ∨
      ∀ c, rest.head? = some c → isBlank c = true := by
  have haddress {f rest} (h : address? s = some (f, rest)) :
      ∀ c, rest.head? = some c → isBlank c = true := by
    rw [address?] at h
    split at h
    · cases h
      intro c hc
      have hstop := List.head?_dropWhile_not (!isBlank ·) s
      rw [hc] at hstop
      simpa using hstop
    · cases h
  unfold cut? at h
  simp only at h
  split at h
  · split at h
    · cases h
      exact .inl List.getLast?_concat
    · exact .inr (.inr (haddress h))
  · split at h
    · cases h
      exact .inr (.inl List.getLast?_concat)
    · exact .inr (.inr (haddress h))
  · exact .inr (.inr (haddress h))

theorem cut?_destination (hd : ')' ∉ d) :
    cut? (']' :: '(' :: (d ++ ')' :: behind)) = some (']' :: '(' :: (d ++ [')']), behind) := by
  have hsplit : Text.splitAt? ')' (d ++ ')' :: behind) = some (d, behind) :=
    Text.splitAt?_eq_some_iff.mpr ⟨rfl, hd⟩
  rw [cut?]
  simp only [hsplit]
  rfl

/-- A guarded stretch that takes in the beginning of a destination takes it in whole. -/
theorem exists_of_whole (hread : cut? s = some (f, rest)) (hwhole : Whole f) (hd : ')' ∉ d)
    (hs : front ++ ']' :: '(' :: (d ++ ')' :: behind) = f ++ rest) :
    (∃ y, f = front ++ ']' :: '(' :: (d ++ ')' :: y)) ∨
      ∃ front', front = f ++ front' ∧ front' ++ ']' :: '(' :: (d ++ ')' :: behind) = rest := by
  rcases List.append_eq_append_iff.mp hs with ⟨z, rfl, hz⟩ | ⟨front', rfl, hrest⟩
  · match z, hz with
    | [], hz => exact .inr ⟨[], by simp, hz⟩
    | [c], hz =>
        cases hz
        rcases stops_of_cut? hread with hlast | hlast | hblank
        · rw [List.getLast?_concat] at hlast
          cases hlast
        · rw [List.getLast?_concat] at hlast
          cases hlast
        · cases hblank '(' rfl
    | c :: c' :: z, hz =>
        simp only [List.cons_append, List.cons.injEq] at hz
        obtain ⟨rfl, rfl, hz⟩ := hz
        have hclose : ')' ∈ z := hwhole.mem
        rcases List.append_eq_append_iff.mp hz with ⟨y, rfl, hy⟩ | ⟨y, rfl, -⟩
        · cases y with
          | nil =>
              rw [List.append_nil] at hclose
              exact absurd hclose hd
          | cons e y =>
              cases hy
              exact .inl ⟨y, rfl⟩
        · exact absurd (List.mem_append_left y hclose) hd
  · exact .inr ⟨front', rfl, hrest.symm⟩

/-- A whole destination stands in one guarded stretch. -/
theorem exists_find_of_destination (hd : ')' ∉ d)
    (ht : front ++ ']' :: '(' :: (d ++ ')' :: behind) = t)
    (hwhole : ∀ f ∈ pattern.findAll t, Whole f) :
    ∃ ps qs x y, pattern.pieces t = ps ++ .found (x ++ ']' :: '(' :: (d ++ ')' :: y)) :: qs ∧
      front = Piece.textOf id ps ++ x := by
  induction t using Pattern.pieces.induct (p := pattern) generalizing front with
  | case1 => cases front <;> cases ht
  | case2 c s f rest hread ih =>
      rw [Pattern.pieces_of_read hread]
      rw [Pattern.findAll_of_read hread, List.forall_mem_cons] at hwhole
      rcases exists_of_whole hread hwhole.1 hd (ht.trans (pattern.append_of_read hread)) with
        ⟨y, rfl⟩ | ⟨front, rfl, hrest⟩
      · exact ⟨[], pattern.pieces rest, front, y, rfl, rfl⟩
      · obtain ⟨ps, qs, x, y, hpieces, hfront⟩ := ih hrest hwhole.2
        refine ⟨.found f :: ps, qs, x, y, by rw [hpieces]; rfl, ?_⟩
        rw [hfront, ← List.append_assoc]
        rfl
  | case3 c s hread ih =>
      rw [Pattern.pieces_cons hread]
      rw [Pattern.findAll_cons hread] at hwhole
      cases front with
      | nil =>
          have hcut : pattern.read (c :: s) = some (']' :: '(' :: (d ++ [')']), behind) :=
            ht ▸ cut?_destination hd
          rw [hread] at hcut
          cases hcut
      | cons e front =>
          cases ht
          obtain ⟨ps, qs, x, y, hpieces, hfront⟩ := ih rfl hwhole
          refine ⟨Piece.consPlain [c] ps, qs, x, y, ?_, ?_⟩
          · rw [hpieces, Piece.consPlain_append_found]
          · rw [Piece.textOf_consPlain, hfront]
            rfl

/-- Each destination of a text stands in another one at the same place. -/
def Keeps (s t : Text) : Prop :=
  ∀ front d behind, ')' ∉ d → s = front ++ ']' :: '(' :: (d ++ ')' :: behind) →
    ∃ front' behind', t = front' ++ ']' :: '(' :: (d ++ ')' :: behind') ∧
      front'.length = front.length

theorem Keeps.drop {a a' : Text} (h : Keeps (a ++ s) (a' ++ t)) (hlength : a'.length = a.length) :
    Keeps s t := by
  rintro front d behind hd rfl
  obtain ⟨front', behind', heq, hplace⟩ := h (a ++ front) d behind hd (by rw [List.append_assoc])
  rw [List.length_append] at hplace
  have hle : a'.length ≤ front'.length := by omega
  refine ⟨front'.drop a'.length, behind', ?_, by rw [List.length_drop]; omega⟩
  rw [← List.drop_append_of_le_length hle, ← heq, List.drop_left]

/-- Emphasis stays out of destinations if each guarded stretch that takes in the beginning of one
takes in its end. -/
theorem keeps_stars (hwhole : ∀ f ∈ pattern.findAll t, Whole f) : Keeps t (Cleanup.stars t) := by
  rintro front d behind hd ht
  obtain ⟨ps, qs, x, y, hpieces, rfl⟩ := exists_find_of_destination hd ht.symm hwhole
  have hlength : List.Forall₂ (Starred .plain) (Piece.textOf id ps)
      (Piece.mapText (Emphasis.starAll false) id ps) :=
    Piece.relates_mapText (R := List.Forall₂ (Starred .plain)) .nil
      (fun hs ht => List.rel_append hs ht) (Emphasis.starred_starAll false) Starred.forall₂_refl ps
  refine ⟨Piece.mapText (Emphasis.starAll false) id ps ++ x,
    y ++ Piece.mapText (Emphasis.starAll false) id qs, ?_, ?_⟩
  · rw [Cleanup.stars, hpieces, Piece.mapText_append, Piece.mapText]
    simp
  · rw [List.length_append, List.length_append, hlength.length_eq]

end Guarded

/-! ## Destinations of cleaned text -/

namespace Link

variable {k : Text.Reach} {s t rest : Text} {l : Link}

theorem exists_of_starred_append {a : Text} (ha : '_' ∉ a)
    (h : List.Forall₂ (Starred k) (a ++ s) t) :
    ∃ t', t = a ++ t' ∧ List.Forall₂ (Starred k) s t' := by
  obtain ⟨a', t', rfl, haa, hrest⟩ := exists_of_forall₂_append h
  have heq : a' = a := by
    induction haa with
    | nil => rfl
    | cons hxy _ ih =>
        rw [List.mem_cons, not_or] at ha
        cases hxy with
        | same => rw [ih ha.2 (List.forall₂_cons.mp h).2]
        | star => exact absurd rfl ha.1
  exact ⟨t', by rw [heq], hrest⟩

theorem exists_read?_of_starred (h : List.Forall₂ (Starred k) s t)
    (hs : read? s = some (l, rest)) :
    ∃ l' rest', read? t = some (l', rest') ∧ l.Tidied l' ∧
      (Guarded.Keeps s t → l'.destination = l.destination ∧ Guarded.Keeps rest rest') ∧
      List.Forall₂ (Starred k) rest rest' := by
  obtain ⟨rfl, hl, hd⟩ := read?_eq_some_iff.mp hs
  have hopening : '_' ∉ opening l.image := by cases l.image <;> simp [opening]
  obtain ⟨t, rfl, hopened⟩ := exists_of_starred_append hopening h
  obtain ⟨label, t, rfl, hlabel, hclosed⟩ := exists_of_forall₂_append hopened
  obtain ⟨t, rfl, hlinked⟩ := exists_of_starred_append (a := [']', '(']) (by simp) hclosed
  obtain ⟨destination, t, rfl, hdestination, hended⟩ := exists_of_forall₂_append hlinked
  obtain ⟨t, rfl, hrest⟩ := exists_of_starred_append (a := [')']) (by simp) hended
  have hlink : l.Tidied ⟨l.image, label, destination⟩ :=
    ⟨rfl, (Tightened.of_starred hlabel ' ').tidied, (Tightened.of_starred hdestination ' ').tidied⟩
  refine ⟨_, t, ?_, hlink, ?_, hrest⟩
  · rw [read?_eq_some_iff]
    exact ⟨rfl, mt hlink.mem_label_iff.mpr hl, mt hlink.mem_destination_iff.mpr hd⟩
  · intro hkeeps
    constructor
    · obtain ⟨front', behind', heq, hplace⟩ := hkeeps (opening l.image ++ l.label) l.destination
        rest hd (by rw [List.append_assoc])
      have hfront : (opening l.image ++ label).length = front'.length := by
        rw [hplace, List.length_append, List.length_append, hlabel.length_eq]
      rw [← List.append_assoc] at heq
      have htail := (List.append_inj heq hfront).2
      simp only [List.cons_append, List.nil_append, List.cons.injEq, true_and] at htail
      exact (List.append_inj htail hdestination.length_eq.symm).1
    · have hdrop := @Guarded.Keeps.drop rest t
        (opening l.image ++ (l.label ++ ([']', '('] ++ (l.destination ++ [')']))))
        (opening l.image ++ (label ++ ([']', '('] ++ (destination ++ [')']))))
      refine hdrop ?_ ?_
      · simpa using hkeeps
      · simp [hlabel.length_eq, hdestination.length_eq]

/-- Emphasis keeps the link constructs.  Whether destinations are kept is part of the induction
along the search, for it is lost once one has been passed. -/
theorem findAll_stars (t : Text) :
    List.Forall₂ (fun l l' => l.Tidied l' ∧
        ((∀ f ∈ Guarded.pattern.findAll t, Guarded.Whole f) → l'.destination = l.destination))
      (pattern.findAll t) (pattern.findAll (Cleanup.stars t)) := by
  refine pattern.forall₂_findAll (R := fun u v => List.Forall₂ (Starred .plain) u v ∧
    ((∀ f ∈ Guarded.pattern.findAll t, Guarded.Whole f) → Guarded.Keeps u v)) ?_ ?_ ?_
    ⟨Cleanup.starred_stars t, Guarded.keeps_stars⟩
  · rintro v ⟨h, -⟩
    cases h
    rfl
  · rintro u v l rest ⟨h, hkeeps⟩ hread
    obtain ⟨l', rest', hread', hl, hkept, hrest⟩ := exists_read?_of_starred h hread
    exact ⟨l', rest', hread', ⟨hl, fun hwhole => (hkept (hkeeps hwhole)).1⟩, hrest,
      fun hwhole => (hkept (hkeeps hwhole)).2⟩
  · rintro c u v ⟨h, hkeeps⟩ hnone
    cases h with
    | @cons _ d _ v hcd h =>
        refine .inr ⟨d, v, rfl, read?_eq_none_of_tightened hcd (.of_starred h d) hnone, h, ?_⟩
        have hone : [d].length = [c].length := rfl
        exact fun hwhole => Guarded.Keeps.drop (hkeeps hwhole) hone

/-- Without code, cleanup keeps the link constructs of a text, each with its label and its
destination tidied.  A destination stays as it is if no blanks stand next to brackets in it and
each guarded stretch of the trimmed text that takes in the beginning of a destination takes in its
end. -/
theorem findAll_cleanup {s : Text} (hticks : backtick ∉ s)
    (hfences : ∀ line ∈ Text.endedLines s, FenceRun.ofLine? line = none) :
    List.Forall₂ (fun l l' => l.Tidied l' ∧
        ((∀ f ∈ Guarded.pattern.findAll (PaddedLabel.trimAll s), Guarded.Whole f) →
          l.destination.Snug → l'.destination = l.destination))
      (pattern.findAll s) (pattern.findAll (cleanup s)) := by
  rw [Cleanup.cleanup_eq_plain hticks hfences, Cleanup.plain_eq]
  refine (forall₂_comp (findAll_trimAll s) (findAll_stars _)).imp ?_
  rintro l l'' ⟨l', ⟨htrimmed, hsnug⟩, hstarred, hwhole⟩
  refine ⟨htrimmed.trans hstarred, fun hguarded hbare => ?_⟩
  rw [hwhole hguarded, hsnug hbare]

/-- Emphasis around a link whose title has underscores, and a bare address with one in it. -/
theorem findAll_cleanup_title :
    let s := "_e_ [ a ](u_v_ \"_t_\") http://x/[q](_r_)".toList
    backtick ∉ s ∧ (∀ line ∈ Text.endedLines s, FenceRun.ofLine? line = none) ∧
      (∀ f ∈ Guarded.pattern.findAll (PaddedLabel.trimAll s), Guarded.Whole f) ∧
      (∀ l ∈ pattern.findAll s, l.destination.Snug) ∧
      List.Forall₂ (fun l l' => l.Tidied l' ∧
          ((∀ f ∈ Guarded.pattern.findAll (PaddedLabel.trimAll s), Guarded.Whole f) →
            l.destination.Snug → l'.destination = l.destination))
        (pattern.findAll s) (pattern.findAll (cleanup s)) := by
  intro s
  have hticks : backtick ∉ s := by decide +kernel
  have hfences : ∀ line ∈ Text.endedLines s, FenceRun.ofLine? line = none := by decide +kernel
  exact ⟨hticks, hfences, by decide +kernel, by decide +kernel, findAll_cleanup hticks hfences⟩

/-- Destinations are not always kept: a bare address in front takes in the beginning of this one,
and emphasis is found behind the address. -/
theorem destinations_not_only_kept :
    ¬∀ s : Text, backtick ∉ s →
      (∀ line ∈ Text.endedLines s, FenceRun.ofLine? line = none) →
      (pattern.findAll (cleanup s)).map (·.destination) =
        (pattern.findAll s).map (·.destination) := by
  intro h
  have hkept := h "see http://x.org/[a](b \"_c_\")".toList (by decide) (by decide +kernel)
  revert hkept
  decide +kernel

end Link

end Tidymark
