import Tidymark.Proofs.Reflow.Content
import Tidymark.Proofs.Render.BlankRuns
import Tidymark.Proofs.Render.Renderable
import Tidymark.Proofs.Text.LineEnds

/-!
# What is written for a document

The words of a rendered document are those its nodes contribute, in order.
Whatever is written for a node ends with a line feed, so the words of one
node never run into those of the next, and what is done to the whole text
moves blanks only.
-/

namespace Tidymark

/-! ## Contributed words -/

/-- The words of a heading and of its marks.  One that asks to be underlined, may be by its level
and has words is underlined; hashes at the end of any other are followed by one hash more. -/
def Heading.contributed (h : Heading) : List Text :=
  let words := Text.words h.text
  if h.style = .setext ∧ h.level ≤ 2 ∧ words ≠ [] then
    words ++ [List.replicate (max (Text.trim h.text).length 3) (if h.level = 1 then '=' else '-')]
  else
    List.replicate h.level '#' :: words ++
      (if words.getLast?.any (·.all (· == '#')) then [['#']] else [])

/-- The words of a code block.  Its language adjoins the opening fence. -/
def CodeBlock.contributed (b : CodeBlock) : List Text :=
  let fence := Render.fenceFor b.fence b.content
  if b.fenced then Text.words (fence ++ b.language) ++ Text.words b.content ++ [fence]
  else Text.words b.content

mutual

/-- The words that a node and those below it contribute, in order. -/
def Node.contributed (c : ListConfig) : Node → List Text
  | .document children => Node.contributedAll c children
  | .heading h => h.contributed
  | .paragraph s => Text.words s
  | .list l => l.contributed c
  | .item i => i.contributed c
  | .code b => b.contributed
  | .text s => Text.words s

def ItemList.contributed (c : ListConfig) : ItemList → List Text
  | ⟨_, _, items⟩ => Item.contributedAll c items

/-- An item contributes its marker, or the configured bullet, its text and what is nested in it. -/
def Item.contributed (c : ListConfig) : Item → List Text
  | ⟨marker, text, children⟩ =>
      Text.words (Render.shownMarker c marker) ++ Text.words text ++ Node.contributedAll c children

def Node.contributedAll (c : ListConfig) : List Node → List Text
  | [] => []
  | n :: rest => n.contributed c ++ Node.contributedAll c rest

def Item.contributedAll (c : ListConfig) : List Item → List Text
  | [] => []
  | i :: rest => i.contributed c ++ Item.contributedAll c rest

end

namespace Render

/-! ## Written lines -/

/-- A text that ends with its lines and holds these words. -/
structure Writes (t : Text) (ws : List Text) : Prop where
  ended : Text.Ended t
  words_eq : Text.words t = ws

theorem writes_nil : Writes [] [] := ⟨Text.ended_nil, Text.words_nil⟩

theorem Writes.append {s t : Text} {vs ws : List Text} (hs : Writes s vs) (ht : Writes t ws) :
    Writes (s ++ t) (vs ++ ws) where
  ended := hs.ended.append ht.ended
  words_eq := by rw [hs.ended.words_append, hs.words_eq, ht.words_eq]

theorem writes_line (s : Text) : Writes (s ++ ['\n']) (Text.words s) where
  ended := Text.ended_append_break s
  words_eq := Text.words_append_break s

theorem Writes.append_blankLine {s : Text} {ws : List Text} (h : Writes s ws) :
    Writes (s ++ ['\n']) ws where
  ended := Text.ended_append_break s
  words_eq := by rw [Text.words_append_break, h.words_eq]

theorem writes_block (s : Text) : Writes (s ++ ['\n', '\n']) (Text.words s) := by
  have hblock := (writes_line s).append_blankLine
  rwa [List.append_assoc] at hblock

theorem writes_flatMap {f : Text → Text} {ls : List Text}
    (h : ∀ l ∈ ls, Writes (f l) (Text.words l)) :
    Writes (ls.flatMap f) (ls.flatMap Text.words) := by
  induction ls with
  | nil => exact writes_nil
  | cons l ls ih =>
      rw [List.forall_mem_cons] at h
      exact h.1.append (ih h.2)

/-! ## Leaves -/

theorem trim_eq_nil_iff {s : Text} : Text.trim s = [] ↔ Text.words s = [] := by
  constructor
  · intro h
    rw [← Text.words_trim, h, Text.words_nil]
  · intro h
    cases htrim : Text.trim s with
    | nil => rfl
    | cons c r =>
        have hc : isBlank c = false := (Text.trimmed_trim s).head c (by rw [htrim]; rfl)
        rw [← Text.words_trim, htrim] at h
        exact absurd h (Text.words_ne_nil hc r)

theorem writes_atxHeading {level : Nat} (hlevel : level ≠ 0) (s : Text) :
    Writes (atxHeading level s)
      (List.replicate level '#' :: Text.words s ++ if needsClosing s then [['#']] else []) := by
  have hhashes : Text.words (List.replicate level '#') = [List.replicate level '#'] :=
    Text.words_of_isWord (Text.isWord_replicate hlevel rfl)
  cases s with
  | nil =>
      have hblock := writes_block (List.replicate level '#')
      rw [hhashes] at hblock
      simpa [atxHeading, needsClosing] using hblock
  | cons c s =>
      have hspace : isBlank ' ' = true := rfl
      have hclosing : Text.words (c :: s ++ if needsClosing (c :: s) then [' ', '#'] else []) =
          Text.words (c :: s) ++ if needsClosing (c :: s) then [['#']] else [] := by
        split
        · have hhash : Text.words ['#'] = [['#']] :=
            Text.words_of_isWord (Text.isWord_replicate Nat.one_ne_zero rfl)
          rw [Text.words_append_blank hspace, hhash]
        · rw [List.append_nil, List.append_nil]
      have hblock := writes_block (List.replicate level '#' ++
        ' ' :: (c :: s ++ if needsClosing (c :: s) then [' ', '#'] else []))
      rw [Text.words_append_blank hspace, hhashes, hclosing] at hblock
      simpa [atxHeading] using hblock

theorem writes_setextHeading (level : Nat) (s : Text) :
    Writes (setextHeading level s)
      (Text.words s ++
        [List.replicate (max s.length 3) (if level = 1 then '=' else '-')]) := by
  have hunderline : Text.words (List.replicate (max s.length 3) (if level = 1 then '=' else '-')) =
      [List.replicate (max s.length 3) (if level = 1 then '=' else '-')] := by
    apply Text.words_of_isWord
    apply Text.isWord_replicate
    · omega
    · split <;> rfl
  have hblock := (writes_line s).append
    (writes_block (List.replicate (max s.length 3) (if level = 1 then '=' else '-')))
  rw [hunderline] at hblock
  rw [setextHeading]
  simpa using hblock

theorem writes_heading {h : Heading} {t : Text} (ht : heading h = .ok t) :
    Writes t h.contributed := by
  rw [heading] at ht
  split at ht
  · next hlevel =>
      have hclosing : needsClosing (Text.trim h.text) =
          (Text.words h.text).getLast?.any (·.all (· == '#')) := by
        rw [needsClosing, Text.words_trim]
        cases (Text.words h.text).getLast? <;> rfl
      simp only [ne_eq, trim_eq_nil_iff] at ht
      rw [Heading.contributed]
      split at ht
      · next hsetext =>
          cases ht
          have hwrites := writes_setextHeading h.level (Text.trim h.text)
          rw [Text.words_trim] at hwrites
          rwa [if_pos hsetext]
      · next hatx =>
          cases ht
          have hne : h.level ≠ 0 := by omega
          have hwrites := writes_atxHeading hne (Text.trim h.text)
          rw [Text.words_trim, hclosing] at hwrites
          rwa [if_neg hatx]
  · cases ht

/-- The words of a paragraph are written as they are, with its links repaired and its lines
filled. -/
theorem words_paragraphText (width : Nat) (s : Text) :
    Text.words (paragraphText width s) = Text.words s := by
  rw [paragraphText]
  split
  · exact BrokenLink.words_repair s
  · rw [words_reflow, BrokenLink.words_repair]

theorem words_trimLineEnds (s : Text) : Text.words (Text.trimLineEnds s) = Text.words s := by
  rw [Text.trimLineEnds, Text.words_joinLines, List.flatMap_map]
  simp only [Text.words_dropEndWhile fun _ => Text.isBlank_of_isSpaceOrTab]
  exact Text.flatMap_words_lines s

theorem writes_opaqueText (c : WhitespaceConfig) (s : Text) :
    Writes (opaqueText c s) (Text.words s) := by
  rw [opaqueText]
  split
  · have hblock := writes_block (Text.trimLineEnds s)
    rwa [words_trimLineEnds] at hblock
  · exact writes_block s

/-! ## Code -/

theorem writes_ended (content : Text) : Writes (ended content) (Text.words content) := by
  rw [ended]
  split
  · next h =>
      refine ⟨fun c hc => ?_, rfl⟩
      rw [Bool.or_eq_true, List.isEmpty_iff, beq_iff_eq] at h
      rcases h with rfl | h
      · cases hc
      · rw [h] at hc
        cases hc
        rfl
  · exact writes_line content

theorem words_dropFinalBreak (s : Text) : Text.words (dropFinalBreak s) = Text.words s := by
  rw [dropFinalBreak]
  split
  · next h =>
      obtain ⟨r, rfl⟩ := List.getLast?_eq_some_iff.mp h
      rw [List.dropLast_concat, (writes_line r).words_eq]
  · rfl

theorem writes_indentedCode (content : Text) :
    Writes (indentedCode content) (Text.words content) := by
  have hline : ∀ line ∈ Text.lines (dropFinalBreak content),
      Writes ((if Text.isAllBlank line then [] else [' ', ' ', ' ', ' '] ++ line) ++ ['\n'])
        (Text.words line) := by
    intro line _
    split
    · next hblank =>
        rw [Text.words_of_isAllBlank hblank]
        exact writes_nil.append_blankLine
    · have hwords : Text.words ([' ', ' ', ' ', ' '] ++ line) = Text.words line :=
        Text.words_append_of_all_left (Text.isBlank_of_mem_spaces 4) line
      have hindented := writes_line ([' ', ' ', ' ', ' '] ++ line)
      rwa [hwords] at hindented
  have hlines := (writes_flatMap hline).append_blankLine
  rwa [Text.flatMap_words_lines, words_dropFinalBreak] at hlines

theorem words_fenceFor (style : FenceStyle) (content : Text) :
    Text.words (fenceFor style content) = [fenceFor style content] := by
  apply Text.words_of_isWord
  apply Text.isWord_replicate
  · omega
  · cases style <;> rfl

theorem writes_fencedCode (b : CodeBlock) :
    Writes (fencedCode b)
      (Text.words (fenceFor b.fence b.content ++ b.language) ++ Text.words b.content ++
        [fenceFor b.fence b.content]) := by
  have hopening := writes_line (fenceFor b.fence b.content ++ b.language)
  have hclosing := writes_block (fenceFor b.fence b.content)
  rw [words_fenceFor] at hclosing
  have hblock := (hopening.append (writes_ended b.content)).append hclosing
  rw [fencedCode]
  simpa using hblock

theorem writes_code (b : CodeBlock) : Writes (code b) b.contributed := by
  rw [code, CodeBlock.contributed]
  split
  · exact writes_fencedCode b
  · exact writes_indentedCode b.content

/-! ## Items -/

theorem writes_itemLines (indent : Nat) (marker text : Text) :
    Writes (itemLines indent marker text) (Text.words marker ++ Text.words text) := by
  have hfirst : ∀ line : Text, Writes
      (List.replicate indent ' ' ++ marker ++ (if line.isEmpty then [] else ' ' :: line) ++ ['\n'])
      (Text.words marker ++ Text.words line) := by
    intro line
    have hmarker : Text.words (List.replicate indent ' ' ++ marker) = Text.words marker :=
      Text.words_append_of_all_left (Text.isBlank_of_mem_spaces indent) marker
    cases line with
    | nil =>
        have hline := writes_line (List.replicate indent ' ' ++ marker)
        rw [hmarker] at hline
        simpa using hline
    | cons c line =>
        have hspace : isBlank ' ' = true := rfl
        have hline := writes_line (List.replicate indent ' ' ++ marker ++ ' ' :: c :: line)
        rwa [Text.words_append_blank hspace, hmarker] at hline
  have hother : ∀ line : Text, Writes
      ((if line.isEmpty then [] else List.replicate (indent + marker.length + 1) ' ' ++ line) ++
        ['\n'])
      (Text.words line) := by
    intro line
    cases line with
    | nil =>
        rw [Text.words_nil]
        exact writes_nil.append_blankLine
    | cons c line =>
        have hline := writes_line (List.replicate (indent + marker.length + 1) ' ' ++ c :: line)
        rwa [Text.words_append_of_all_left (Text.isBlank_of_mem_spaces _)] at hline
  have hwords := Text.flatMap_words_lines text
  rw [itemLines]
  dsimp only
  cases hlines : Text.lines text with
  | nil => exact absurd hlines (Text.lines_ne_nil text)
  | cons line rest =>
      rw [hlines, List.flatMap_cons] at hwords
      rw [← hwords, ← List.append_assoc]
      exact (hfirst line).append (writes_flatMap fun l _ => hother l)

theorem writes_both {x y : Except Failure Text} {vs ws : List Text} {t : Text}
    (hx : ∀ s, x = .ok s → Writes s vs) (hy : ∀ s, y = .ok s → Writes s ws)
    (h : (do
      let first ← x
      let rest ← y
      return first ++ rest) = .ok t) : Writes t (vs ++ ws) := by
  cases x with
  | error e => cases h
  | ok first =>
      cases y with
      | error e => cases h
      | ok rest =>
          cases h
          exact (hx first rfl).append (hy rest rfl)

mutual

theorem writes_items (c : ListConfig) (indent : Nat) (is : List Item) {t : Text}
    (h : items c indent is = .ok t) : Writes t (Item.contributedAll c is) := by
  match is with
  | [] =>
      cases h
      exact writes_nil
  | i :: rest =>
      rw [items] at h
      exact writes_both (fun _ => writes_item c indent i) (fun _ => writes_items c indent rest) h

theorem writes_item (c : ListConfig) (indent : Nat) (i : Item) {t : Text}
    (h : item c indent i = .ok t) : Writes t (i.contributed c) := by
  match i with
  | ⟨marker, text, children⟩ =>
      rw [item] at h
      exact writes_both
        (x := .ok (itemLines indent (shownMarker c marker) text))
        (fun s hs => by cases hs; exact writes_itemLines indent (shownMarker c marker) text)
        (fun _ => writes_itemChildren c (nestedIndent c indent (shownMarker c marker)) children) h

theorem writes_itemChildren (c : ListConfig) (indent : Nat) (ns : List Node) {t : Text}
    (h : itemChildren c indent ns = .ok t) : Writes t (Node.contributedAll c ns) := by
  match ns with
  | [] =>
      cases h
      exact writes_nil
  | .list ⟨_, _, is⟩ :: rest =>
      rw [itemChildren] at h
      exact writes_both (fun _ => writes_items c indent is)
        (fun _ => writes_itemChildren c indent rest) h
  | .document _ :: _ | .heading _ :: _ | .paragraph _ :: _ | .item _ :: _ | .code _ :: _
  | .text _ :: _ => cases h

end

/-! ## Documents -/

/-- A blank line behind what is written. -/
theorem writes_apart {x : Except Failure Text} {ws : List Text} {t : Text}
    (hx : ∀ s, x = .ok s → Writes s ws) (h : (· ++ ['\n']) <$> x = .ok t) : Writes t ws := by
  cases x with
  | error e => cases h
  | ok s =>
      cases h
      exact (hx s rfl).append_blankLine

theorem writes_node (c : Config) (n : Node) {t : Text} (h : node c n = .ok t) :
    Writes t (n.contributed c.list) := by
  cases n with
  | document _ => cases h
  | heading _ => exact writes_heading h
  | paragraph s =>
      cases h
      have hblock := writes_block (paragraphText c.lineWidth s)
      rwa [words_paragraphText] at hblock
  | list l =>
      obtain ⟨_, _, is⟩ := l
      exact writes_apart (fun _ => writes_items c.list 0 is) h
  | item i => exact writes_apart (fun _ => writes_item c.list 0 i) h
  | code b =>
      cases h
      exact writes_code b
  | text s =>
      cases h
      exact writes_opaqueText c.whitespace s

theorem writes_body (c : Config) (d : Document) {t : Text} (h : body c d = .ok t) :
    Writes t (d.flatMap (Node.contributed c.list)) := by
  induction d generalizing t with
  | nil =>
      cases h
      exact writes_nil
  | cons n rest ih => exact writes_both (fun _ => writes_node c n) (fun _ => ih) h

/-- What is done to the whole text keeps its words. -/
theorem words_finish (c : WhitespaceConfig) (s : Text) :
    Text.words (finish c s) = Text.words s := by
  have hbreak : ∀ a : Char, (a == '\n') = true → isBlank a = true := by
    intro a ha
    rw [beq_iff_eq.mp ha]
    rfl
  have hkept : Text.words (Text.dropEndWhile (· == '\n')
      (BlankLines.normalize c.maxBlankLines s)) = Text.words s := by
    rw [Text.words_dropEndWhile hbreak, BlankLines.words_normalize]
  rw [finish]
  split
  · rw [(writes_line _).words_eq, hkept]
  · exact hkept

end Render

/-- The words of a rendered document are those its nodes contribute, in order. -/
theorem Document.words_render {c : Config} {d : Document} {t : Text} (h : d.render c = .ok t) :
    Text.words t = d.flatMap (Node.contributed c.list) := by
  obtain ⟨s, hbody, rfl⟩ := Document.exists_of_render h
  rw [Render.words_finish, (Render.writes_body c d hbody).words_eq]

/-- Items with a bullet of their own and with the configured one, above a heading of a hash. -/
theorem Document.words_render_items :
    ∃ t, Document.render {}
        [.list ⟨false, ['*'], [⟨['*'], "a b".toList, [.list ⟨false, [], [⟨[], ['c'], []⟩]⟩]⟩]⟩,
          .heading ⟨1, ['#'], .atx⟩] = .ok t ∧
      Text.words t = [['*'], ['a'], ['b'], ['-'], ['c'], ['#'], ['#'], ['#']] := by
  have hrender : Document.render {}
      [.list ⟨false, ['*'], [⟨['*'], "a b".toList, [.list ⟨false, [], [⟨[], ['c'], []⟩]⟩]⟩]⟩,
        .heading ⟨1, ['#'], .atx⟩] = .ok "* a b\n  - c\n\n# # #\n".toList :=
    ok_of_toOption (by decide +kernel)
  refine ⟨_, hrender, ?_⟩
  rw [Document.words_render hrender]
  decide +kernel

end Tidymark
