import Tidymark.Proofs.Text.Pieces
import Tidymark.Proofs.Text.Spacing
import Tidymark.Render.BrokenLink

/-!
# What reflow and link repair keep

Grouping and filling leave no token out and keep their order.  Between tokens
stand blanks only, and reflow as well as the repair of links exchange blanks
for blanks, so neither adds, merges or loses a word.
-/

namespace Tidymark

/-! ## Clusters and lines -/

theorem Cluster.flatten_groupFrom (current : Cluster) (tokens : List Token) :
    (groupFrom current tokens).flatten = current ++ tokens := by
  fun_induction groupFrom current tokens with
  | case1 current => simp
  | case2 current token rest _ ih => rw [ih, List.append_assoc, List.singleton_append]
  | case3 current token rest _ ih => rw [List.flatten_cons, ih, List.singleton_append]

theorem Cluster.flatten_group (tokens : List Token) : (group tokens).flatten = tokens := by
  cases tokens with
  | nil => rfl
  | cons token rest => exact flatten_groupFrom [token] rest

/-- Filling puts every cluster on a line, in order. -/
theorem Line.flatten_fillFrom (width : Nat) (current : Line) (clusters : List Cluster) :
    (fillFrom width current clusters).flatten = current ++ clusters := by
  fun_induction fillFrom width current clusters with
  | case1 current h =>
      rw [List.isEmpty_iff.mp h]
      rfl
  | case2 current h => simp
  | case3 current cluster rest _ ih₁ ih₂ =>
      rw [List.flatten_cons]
      split
      · rw [List.flatten_cons, ih₁, List.nil_append, List.singleton_append]
      · rw [ih₂, List.singleton_append]
  | case4 current cluster rest _ _ ih =>
      rw [List.flatten_cons, ih, List.nil_append, List.append_assoc, List.singleton_append]
  | case5 current cluster rest _ _ ih => rw [ih, List.append_assoc, List.singleton_append]

theorem Cluster.words_text (cluster : Cluster) :
    Text.words cluster.text = cluster.flatMap (Text.words ·.text) := by
  rw [text, Text.words_joinWords_eq, List.flatMap_map]

theorem Line.words_text (line : Line) :
    Text.words line.text = line.flatten.flatMap (Text.words ·.text) := by
  rw [text, Text.words_joinWords_eq, List.flatMap_map, List.flatten_eq_flatMap, List.flatMap_assoc]
  simp only [Cluster.words_text, id]

/-! ## Tokens -/

theorem Marked.isBlank_of_separates {m : Marked} (h : m.separates = true) :
    isBlank m.char = true := by
  rw [separates, Bool.and_eq_true] at h
  exact h.1

theorem Marked.isBlank_of_mem_chars {s : List Marked} (h : ∀ m ∈ s, m.separates = true) :
    ∀ c ∈ s.map (·.char), isBlank c = true := by
  intro c hc
  obtain ⟨m, hm, rfl⟩ := List.mem_map.mp hc
  exact isBlank_of_separates (h m hm)

theorem Token.words_ofMarked (s : List Marked) :
    (ofMarked s).flatMap (Text.words ·.text) = Text.words (s.map (·.char)) := by
  fun_induction ofMarked s with
  | case1 s h =>
      have hsep : ∀ m ∈ s, m.separates = true := List.dropWhile_eq_nil_iff.mp h
      rw [Text.words_of_all (Marked.isBlank_of_mem_chars hsep), List.flatMap_nil]
  | case2 s m r h word rest gap after hard ih =>
      have hfront : ∀ m ∈ s.takeWhile Marked.separates, m.separates = true := fun m hm =>
        List.mem_takeWhile_imp hm
      have hrest : ∀ c, (rest.map (·.char)).head? = some c → isBlank c = true := by
        intro c hc
        rw [List.head?_map, Option.map_eq_some_iff] at hc
        obtain ⟨k, hk, rfl⟩ := hc
        have hsep := Text.not_of_head?_dropWhile (p := fun k : Marked => !k.separates) hk
        exact Marked.isBlank_of_separates (by simpa using hsep)
      have hsplit : s.takeWhile Marked.separates ++ (m :: (r.takeWhile (!·.separates) ++ rest)) =
          s := by
        rw [List.takeWhile_append_dropWhile, ← h, List.takeWhile_append_dropWhile]
      have hchars : s.map (·.char) =
          (s.takeWhile Marked.separates).map (·.char) ++ (word ++ rest.map (·.char)) := by
        conv => lhs; rw [← hsplit]
        rw [List.map_append, List.map_cons, List.map_append]
        rfl
      rw [List.flatMap_cons, ih, hchars,
        Text.words_append_of_all_left (Marked.isBlank_of_mem_chars hfront),
        Text.words_append_of_head? _ hrest]

theorem Marked.chars_ofPieces (ps : List (Piece Link)) :
    (ofPieces ps).map (·.char) = Piece.textOf Link.source ps := by
  induction ps with
  | nil => rfl
  | cons p ps ih => cases p <;> simp [ofPieces, Piece.textOf, Piece.text, ih, Function.comp_def]

theorem Marked.chars_ofText (s : Text) : (ofText s).map (·.char) = s := by
  rw [ofText, chars_ofPieces]
  exact Link.pattern.textOf_pieces s

theorem Token.words_ofText (s : Text) :
    (ofText s).flatMap (Text.words ·.text) = Text.words s := by
  rw [ofText, words_ofMarked, Marked.chars_ofText]

/-! ## Tokens outside links -/

theorem Token.isWord_of_mem_ofMarked {s : List Marked} (hs : ∀ m ∈ s, m.linked = false)
    {token : Token} (h : token ∈ ofMarked s) : Text.IsWord token.text := by
  fun_induction ofMarked s with
  | case1 s hnil => cases h
  | case2 s m r hsplit word rest gap after hard ih =>
      have hchar {k : Marked} (hk : k ∈ s) (hsep : k.separates = false) :
          isBlank k.char = false := by
        rw [Marked.separates, hs k hk, Bool.not_false, Bool.and_true] at hsep
        exact hsep
      have hmem : ∀ k ∈ m :: r, k ∈ s := by
        rw [← hsplit]
        exact fun k hk => (List.dropWhile_sublist Marked.separates).subset hk
      have hm : m.separates = false := Text.not_of_head?_dropWhile (by rw [hsplit, List.head?_cons])
      rcases List.mem_cons.mp h with rfl | h
      · refine ⟨List.cons_ne_nil _ _, ?_⟩
        intro c hc
        rcases List.mem_cons.mp hc with rfl | hc
        · exact hchar (hmem m List.mem_cons_self) hm
        · obtain ⟨k, hk, rfl⟩ := List.mem_map.mp hc
          have hkr : k ∈ r := (List.takeWhile_sublist _).subset hk
          have hseparates := List.mem_takeWhile_imp hk
          exact hchar (hmem k (List.mem_cons_of_mem m hkr)) (by simpa using hseparates)
      · refine ih (fun k hk => ?_) h
        have hkr : k ∈ r := (List.dropWhile_sublist _).subset hk
        exact hs k (hmem k (List.mem_cons_of_mem m hkr))

theorem Marked.linked_of_mem_ofPieces {ps : List (Piece Link)} (hps : Piece.finds ps = [])
    {m : Marked} (hm : m ∈ ofPieces ps) : m.linked = false := by
  induction ps with
  | nil => cases hm
  | cons p ps ih =>
      cases p with
      | found link => cases hps
      | plain s =>
          rw [ofPieces, List.mem_append] at hm
          rcases hm with hm | hm
          · obtain ⟨c, _, rfl⟩ := List.mem_map.mp hm
            rfl
          · exact ih hps hm

theorem Token.isWord_of_mem_ofText {s : Text} (hs : Link.pattern.occursIn s = false)
    {token : Token} (h : token ∈ ofText s) : Text.IsWord token.text := by
  have hfinds : Piece.finds (Link.pattern.pieces s) = [] := by
    rw [Pattern.occursIn, Bool.not_eq_false', List.isEmpty_iff] at hs
    exact hs
  exact isWord_of_mem_ofMarked (fun m hm => Marked.linked_of_mem_ofPieces hfinds hm) h

/-! ## Reflow -/

/-- Reflow keeps the words of a text, at every width. -/
theorem words_reflow (width : Nat) (s : Text) : Text.words (reflow width s) = Text.words s := by
  unfold reflow
  split
  · rfl
  · rfl
  · next width _ _ _ _ =>
      have htokens : (Line.fill width (Cluster.group (Token.ofText s))).flatten.flatten =
          Token.ofText s := by
        rw [Line.fill, Line.flatten_fillFrom, List.nil_append, Cluster.flatten_group]
      calc Text.words (Text.joinLines
            ((Line.fill width (Cluster.group (Token.ofText s))).map Line.text))
          = (Line.fill width (Cluster.group (Token.ofText s))).flatMap
              fun line => line.flatten.flatMap (Text.words ·.text) := by
            rw [Text.words_joinLines, List.flatMap_map]
            simp only [Line.words_text]
        _ = (Token.ofText s).flatMap (Text.words ·.text) := by
            conv => rhs; rw [← htokens]
            simp only [List.flatten_eq_flatMap, List.flatMap_assoc, id]
        _ = Text.words s := Token.words_ofText s

/-! ## The repair of links -/

namespace BrokenLink

theorem respaced_unbreak (s : Text) : Text.Respaced s (unbreak s) := by
  fun_induction unbreak s with
  | case1 => exact .nil
  | case2 c r hc run ih =>
      have hrun : ∀ d ∈ run, isBlank d = true := by
        intro d hd
        rcases List.mem_cons.mp hd with rfl | hd
        · exact hc
        · exact List.mem_takeWhile_imp hd
      have hsplit : c :: r = run ++ r.dropWhile isBlank := by
        rw [List.cons_append, List.takeWhile_append_dropWhile]
      have hspace : ∀ d ∈ [' '], isBlank d = true := List.forall_mem_singleton.mpr rfl
      rw [hsplit]
      split
      · exact .blanks (List.cons_ne_nil _ _) (List.cons_ne_nil _ _) hrun hspace ih
      · exact (Text.Respaced.refl run).append ih
  | case3 c r _ ih => exact .char c ih

theorem respaced_mend (link : Link) : Text.Respaced link.source (mend link).source := by
  have hlabel : Text.Respaced ('[' :: link.label) ('[' :: unbreak link.label) :=
    .char '[' (respaced_unbreak link.label)
  exact ((Text.Respaced.refl _).append hlabel).append
    (.refl (']' :: '(' :: link.destination)) |>.append (.refl [')'])

theorem words_repairRounds (rounds : Nat) (s : Text) :
    Text.words (repairRounds rounds s) = Text.words s := by
  induction rounds generalizing s with
  | zero => rfl
  | succ n ih =>
      rw [repairRounds]
      split
      · have hmended :=
          pattern.relates_replace Text.Respaced.refl Text.Respaced.append respaced_mend s
        rw [ih, mendAll, ← hmended.words_eq]
      · rfl

/-- The repair of links keeps the words of a text. -/
theorem words_repair (s : Text) : Text.words (repair s) = Text.words s :=
  words_repairRounds _ s

end BrokenLink

end Tidymark
