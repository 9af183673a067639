import Tidymark.Format
import Tidymark.Proofs.Document.ReadShape
import Tidymark.Proofs.Engine.StandardPass
import Tidymark.Proofs.Text.Encoding

/-!
# What formatting fails on

The standard pass and rendering accept the same documents, levels of headings
apart.  Formatting fails on bytes that encode no text and on nothing else:
documents that are read can be rendered, and the standard pass leaves them so.
-/

namespace Tidymark

theorem Heading.level_tidy (c : HeadingConfig) {h : Heading}
    (hlevel : 1 ≤ h.level ∧ h.level ≤ 6) : (h.tidy c).level = h.level := by
  simp only [Heading.tidy]
  split
  · omega
  · rfl

theorem Node.leveled_normalized (c : Config) {n : Node} (h : n.Leveled) :
    (n.normalized c).Leveled := by
  cases n with
  | heading g =>
      rw [Node.normalized, Leveled, g.level_tidy c.heading h]
      exact h
  | document _ | paragraph _ | list _ | item _ | code _ | text _ => trivial

theorem Document.Renderable.normalized (c : Config) {d : Document} (h : d.Renderable) :
    Document.Renderable (d.map (Node.normalized c)) where
  toWellShaped := h.toWellShaped.normalized c
  levels := by
    intro n hn
    obtain ⟨m, hm, rfl⟩ := List.mem_map.mp hn
    exact Node.leveled_normalized c (h.levels m hm)

theorem Engine.format_standard_of_wellShaped (c : Config) {d : Document} (h : d.WellShaped) :
    standard.format c d = .ok (d.map (Node.normalized c)) := by
  rw [format_standard, Document.check_preorder_iff.mpr h]
  rfl

theorem Engine.eq_map_normalized_of_format_standard {c : Config} {d d' : Document}
    (h : standard.format c d = .ok d') : d.WellShaped ∧ d' = d.map (Node.normalized c) := by
  rw [format_standard] at h
  cases hcheck : Placed.check d.preorder with
  | error e => rw [hcheck] at h; cases h
  | ok _ =>
      rw [hcheck] at h
      cases h
      exact ⟨Document.check_preorder_iff.mp hcheck, rfl⟩

theorem Engine.exists_format_standard_iff (c : Config) (d : Document) :
    (∃ d', standard.format c d = .ok d') ↔ d.WellShaped := by
  constructor
  · rintro ⟨d', h⟩
    exact (eq_map_normalized_of_format_standard h).1
  · intro h
    exact ⟨_, format_standard_of_wellShaped c h⟩

/-! ## Rendering behind the pass -/

theorem Document.exists_render_error_iff (c : Config) (d : Document) :
    (∃ e, d.render c = .error e) ↔ ¬d.Renderable := by
  rw [← Document.exists_render_iff c]
  cases d.render c with
  | ok t => simp
  | error e => simp

theorem Document.levels_iff {d : Document} :
    (∀ n ∈ d, n.Leveled) ↔ ∀ h, .heading h ∈ d → 1 ≤ h.level ∧ h.level ≤ 6 := by
  constructor
  · intro hlevels h hh
    exact hlevels _ hh
  · intro hlevels n hn
    cases n with
    | heading h => exact hlevels h hn
    | document _ | paragraph _ | list _ | item _ | code _ | text _ => trivial

theorem Node.leveled_normalized_of_normalizeLevels {c : Config}
    (hc : c.heading.normalizeLevels = true) (n : Node) : (n.normalized c).Leveled := by
  cases n with
  | heading h =>
      simp only [Node.normalized, Leveled, Heading.tidy, if_pos hc]
      omega
  | document _ | paragraph _ | list _ | item _ | code _ | text _ => trivial

theorem Node.leveled_normalized_iff {c : Config} (hc : c.heading.normalizeLevels = false)
    (n : Node) : (n.normalized c).Leveled ↔ n.Leveled := by
  cases n with
  | heading h => simp [Node.normalized, Leveled, Heading.tidy, hc]
  | document _ | paragraph _ | list _ | item _ | code _ | text _ => exact Iff.rfl

/-- The normal form of a well-shaped document can be rendered exactly if the levels of its
headings are normalised or were in range before. -/
theorem Document.renderable_normalized_iff (c : Config) {d : Document} (h : d.WellShaped) :
    Document.Renderable (d.map (Node.normalized c)) ↔
      c.heading.normalizeLevels = true ∨ ∀ n ∈ d, n.Leveled := by
  cases hc : c.heading.normalizeLevels with
  | true =>
      refine ⟨fun _ => .inl rfl, fun _ => ⟨h.normalized c, ?_⟩⟩
      intro n hn
      obtain ⟨m, _, rfl⟩ := List.mem_map.mp hn
      exact Node.leveled_normalized_of_normalizeLevels hc m
  | false =>
      constructor
      · intro hd
        refine .inr fun n hn => ?_
        exact (Node.leveled_normalized_iff hc n).mp (hd.levels _ (List.mem_map_of_mem hn))
      · rintro (hc' | hlevels)
        · cases hc'
        · exact Document.Renderable.normalized c ⟨h, hlevels⟩

/-- Rendering accepts what the standard pass accepts, provided that the levels of the headings are
in range: documents without a document in them, whose items hold lists only at every depth.  So
behind the pass it never fails if levels are normalised, and if they are not, it fails exactly on
a level out of range. -/
theorem Document.render_accepts_iff (c : Config) (d : Document) :
    ((∃ d', Engine.standard.format c d = .ok d') ↔
      (∀ n ∈ d, n.kind ≠ .document) ∧ ∀ p ∈ d.preorder, p.parent = .item → p.node.kind = .list) ∧
    ((∃ t, d.render c = .ok t) ↔
      (∀ n ∈ d, n.kind ≠ .document) ∧
        (∀ p ∈ d.preorder, p.parent = .item → p.node.kind = .list) ∧
        ∀ h, .heading h ∈ d → 1 ≤ h.level ∧ h.level ≤ 6) ∧
    ∀ d', Engine.standard.format c d = .ok d' →
      (c.heading.normalizeLevels = true → ∃ t, d'.render c = .ok t) ∧
      (c.heading.normalizeLevels = false →
        ((∃ e, d'.render c = .error e) ↔
          ∃ h, .heading h ∈ d ∧ ¬(1 ≤ h.level ∧ h.level ≤ 6))) := by
  refine ⟨?_, ?_, ?_⟩
  · rw [Engine.exists_format_standard_iff]
    exact ⟨fun h => ⟨h.roots, h.children⟩, fun h => ⟨h.1, h.2⟩⟩
  · rw [Document.exists_render_iff, ← Document.levels_iff]
    exact ⟨fun h => ⟨h.roots, h.children, h.levels⟩, fun h => ⟨⟨h.1, h.2.1⟩, h.2.2⟩⟩
  · intro d' hformat
    obtain ⟨hd, rfl⟩ := Engine.eq_map_normalized_of_format_standard hformat
    constructor
    · intro hc
      rw [Document.exists_render_iff, Document.renderable_normalized_iff c hd]
      exact .inl hc
    · intro hc
      rw [Document.exists_render_error_iff, Document.renderable_normalized_iff c hd, hc,
        Document.levels_iff]
      simp

/-- A heading of level nine above a list of lists: rendering fails behind the pass unless levels are
normalised. -/
theorem Document.render_accepts_level_nine :
    (∃ d' t, Engine.standard.format {} [.heading ⟨9, ['h'], .atx⟩,
        .list ⟨false, [], [⟨[], ['a'], [.list ⟨true, [], [⟨[], ['b'], []⟩]⟩]⟩]⟩] = .ok d' ∧
      d'.render {} = .ok t) ∧
    ∃ d' e, Engine.standard.format { heading := { normalizeLevels := false } }
        [.heading ⟨9, ['h'], .atx⟩] = .ok d' ∧
      d'.render { heading := { normalizeLevels := false } } = .error e := by
  constructor
  · obtain ⟨d', hd'⟩ := (Document.render_accepts_iff {} [.heading ⟨9, ['h'], .atx⟩,
      .list ⟨false, [], [⟨[], ['a'], [.list ⟨true, [], [⟨[], ['b'], []⟩]⟩]⟩]⟩]).1.mpr
        (by constructor <;> simp [Document.preorder, Node.preorder, Node.descendants,
              ItemList.descendants, Item.preorder, Item.descendants, Node.kind])
    obtain ⟨t, ht⟩ := ((Document.render_accepts_iff {} _).2.2 d' hd').1 rfl
    exact ⟨d', t, hd', ht⟩
  · obtain ⟨d', hd'⟩ := (Document.render_accepts_iff { heading := { normalizeLevels := false } }
      [.heading ⟨9, ['h'], .atx⟩]).1.mpr
        (by constructor <;> simp [Document.preorder, Node.preorder, Node.descendants, Node.kind])
    obtain ⟨e, he⟩ := (((Document.render_accepts_iff _ _).2.2 d' hd').2 rfl).mpr
      ⟨⟨9, ['h'], .atx⟩, List.mem_cons_self, by decide⟩
    exact ⟨d', e, hd', he⟩

/-! ## Sources -/

/-- No rule and no step of rendering fails on what is read from a source. -/
theorem exists_format_read (c : Config) (source : Text) :
    ∃ d t, Engine.standard.format c (Document.read source) = .ok d ∧ d.render c = .ok t := by
  have hread := Document.renderable_read source
  obtain ⟨t, ht⟩ := (Document.exists_render_iff c _).mpr (hread.normalized c)
  exact ⟨_, t, Engine.format_standard_of_wellShaped c hread.toWellShaped, ht⟩

theorem formatBody_of_render {c : Config} {body : Text} {d : Document} {t : Text}
    (hd : Engine.standard.format c (Document.read body) = .ok d) (ht : d.render c = .ok t) :
    formatBody c body = .ok t := by
  rw [formatBody, hd]
  exact ht

theorem formatText_of_formatBody {c : Config} {s t : Text}
    (h : formatBody c (FrontMatter.split s).2 = .ok t) :
    formatText c s = .ok (FrontMatter.attach (FrontMatter.split s).1 t) := by
  rw [formatText]
  simp only
  rw [h]
  rfl

theorem format_encode (c : Config) (s : Text) : format c (Text.encode s) = formatText c s := by
  rw [format, decodeSource, Utf8.decode_eq_ok_iff.mpr rfl]
  rfl

/-- Bytes that encode no text fail on their encoding. -/
theorem format_of_not_encoded (c : Config) {bytes : Bytes} (h : ¬∃ s, bytes = Text.encode s) :
    ∃ fault, format c bytes = .error (.encoding fault) := by
  cases hdecode : Utf8.decode bytes with
  | ok s => exact absurd ⟨s, Utf8.decode_eq_ok_iff.mp hdecode⟩ h
  | error fault =>
      refine ⟨fault, ?_⟩
      rw [format, decodeSource, hdecode]
      rfl

/-- Formatting fails exactly on bytes that encode no text, and then on their encoding.  Otherwise
the standard pass and the rendering of what is read both succeed and give the formatted text. -/
theorem format_fails_only_on_encoding (c : Config) (bytes : Bytes) :
    ((∃ e, format c bytes = .error e) ↔ ¬∃ s, bytes = Text.encode s) ∧
      (∀ e, format c bytes = .error e → ∃ fault, e = .encoding fault) ∧
      ∀ s, bytes = Text.encode s →
        ∃ d t, Engine.standard.format c (Document.read (FrontMatter.split s).2) = .ok d ∧
          d.render c = .ok t ∧
          format c bytes = .ok (FrontMatter.attach (FrontMatter.split s).1 t) := by
  have hvalid : ∀ s, bytes = Text.encode s →
      ∃ d t, Engine.standard.format c (Document.read (FrontMatter.split s).2) = .ok d ∧
        d.render c = .ok t ∧
        format c bytes = .ok (FrontMatter.attach (FrontMatter.split s).1 t) := by
    rintro s rfl
    obtain ⟨d, t, hd, ht⟩ := exists_format_read c (FrontMatter.split s).2
    refine ⟨d, t, hd, ht, ?_⟩
    rw [format_encode]
    exact formatText_of_formatBody (formatBody_of_render hd ht)
  have hfails : ∀ e, format c bytes = .error e → ¬∃ s, bytes = Text.encode s := by
    rintro e he ⟨s, hs⟩
    obtain ⟨_, _, _, _, hok⟩ := hvalid s hs
    rw [hok] at he
    cases he
  refine ⟨⟨?_, fun h => ?_⟩, fun e he => ?_, hvalid⟩
  · rintro ⟨e, he⟩
    exact hfails e he
  · obtain ⟨fault, hfault⟩ := format_of_not_encoded c h
    exact ⟨_, hfault⟩
  · obtain ⟨fault, hfault⟩ := format_of_not_encoded c (hfails e he)
    rw [hfault] at he
    cases he
    exact ⟨fault, rfl⟩

end Tidymark
