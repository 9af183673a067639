import Tidymark.Proofs.FileTree.Entries

/-!
# Paths below a path

A path that is joined with a name has the parts of the path and then the name.
So it leads to the entry of that name, where the path leads to a directory.  In
a proper tree the entries of each directory have names, and no two the same.
-/

namespace Tidymark

namespace Path

/-- A text is a name: it means no other part of a path than itself. -/
structure IsName (s : Text) : Prop where
  ne_nil : s ≠ []
  slash : '/' ∉ s
  ne_current : s ≠ ['.']
  ne_parent : s ≠ "..".toList

instance (s : Text) : Decidable (IsName s) :=
  decidable_of_iff (s ≠ [] ∧ '/' ∉ s ∧ s ≠ ['.'] ∧ s ≠ "..".toList)
    ⟨fun ⟨h, h', h'', h'''⟩ => ⟨h, h', h'', h'''⟩, fun ⟨h, h', h'', h'''⟩ => ⟨h, h', h'', h'''⟩⟩

/-- A path below a path, by the names on the way. -/
def descend (path : Text) (names : List Text) : Text := names.foldl join path

theorem descend_nil (path : Text) : descend path [] = path := rfl

theorem descend_cons (path name : Text) (names : List Text) :
    descend path (name :: names) = descend (join path name) names := rfl

/-! ## Parts -/

theorem split_of_not_mem {s : Text} (h : '/' ∉ s) : split s = [s] := by
  induction s with
  | nil => rfl
  | cons c s ih =>
      rw [List.mem_cons, not_or] at h
      rw [split, if_neg (Ne.symm h.1), ih h.2]
      rfl

theorem consFirst_append (c : Char) {ls : List Text} (h : ls ≠ []) (ks : List Text) :
    Text.consFirst c (ls ++ ks) = Text.consFirst c ls ++ ks := by
  cases ls with
  | nil => exact absurd rfl h
  | cons line rest => rfl

theorem split_append_slash (s t : Text) : split (s ++ '/' :: t) = split s ++ split t := by
  induction s with
  | nil => rfl
  | cons c s ih =>
      rw [List.cons_append, split, split, ih]
      split
      · rfl
      · exact consFirst_append c (split_ne_nil s) (split t)

theorem IsName.split_eq {name : Text} (h : IsName name) : split name = [name] :=
  split_of_not_mem h.slash

theorem IsName.not_isAbsolute {name : Text} (h : IsName name) : isAbsolute name = false := by
  cases name with
  | nil => rfl
  | cons c s =>
      have hc : '/' ≠ c := fun heq => h.slash (heq ▸ List.mem_cons_self)
      rw [isAbsolute, List.isPrefixOf, beq_eq_false_iff_ne.mpr hc, Bool.false_and]

/-- The parts of a path that is joined with a name; a slash at the end of the path is no part. -/
theorem exists_split_join {path name : Text} (hpath : path ≠ []) (h : IsName name) :
    ∃ parts void, parts ≠ [] ∧ (void = [] ∨ void = [[]]) ∧ split path = parts ++ void ∧
      split (join path name) = parts ++ [name] := by
  have hjoin : join path name =
      if path.getLast? = some '/' then path ++ name else path ++ '/' :: name := by
    rw [join, h.not_isAbsolute, if_neg]
    simp [hpath]
  rw [hjoin]
  split
  · next hslash =>
      obtain ⟨front, rfl⟩ := List.getLast?_eq_some_iff.mp hslash
      refine ⟨split front, [[]], split_ne_nil front, .inr rfl, split_append_slash front [], ?_⟩
      rw [List.append_assoc, List.singleton_append, split_append_slash, h.split_eq]
  · refine ⟨split path, [], split_ne_nil path, .inl rfl, (List.append_nil _).symm, ?_⟩
    rw [split_append_slash, h.split_eq]

/-! ## Components -/

theorem inner_append (xs ys : List Text) : inner (xs ++ ys) = inner xs ++ inner ys := by
  induction xs with
  | nil => rfl
  | cons part rest ih =>
      rw [List.cons_append, inner, inner, ih]
      split
      · rfl
      · split
        · rfl
        · rfl

theorem IsName.inner_eq {name : Text} (h : IsName name) : inner [name] = [.name name] := by
  rw [inner, if_neg (not_or.mpr ⟨h.ne_nil, h.ne_current⟩), if_neg h.ne_parent, inner]

theorem inner_append_void (xs : List Text) {void : List Text} (h : void = [] ∨ void = [[]]) :
    inner (xs ++ void) = inner xs := by
  rcases h with rfl | rfl
  · rw [List.append_nil]
  · rw [inner_append]
    exact List.append_nil _

/-- A name is one more component. -/
theorem components_join (path : Text) {name : Text} (h : IsName name) :
    components (join path name) = components path ++ [.name name] := by
  cases path with
  | nil =>
      have hjoin : join [] name = name := by simp [join]
      rw [hjoin, components, h.split_eq]
      cases name with
      | nil => exact absurd rfl h.ne_nil
      | cons c s =>
          rw [← h.inner_eq]
          exact if_neg h.ne_current
  | cons c s =>
      obtain ⟨parts, void, hparts, hvoid, hpath, hjoin⟩ :=
        exists_split_join (List.cons_ne_nil c s) h
      obtain ⟨part, rest, rfl⟩ := List.exists_cons_of_ne_nil hparts
      have hrest : inner (rest ++ [name]) = inner (rest ++ void) ++ [.name name] := by
        rw [inner_append, h.inner_eq, inner_append_void rest hvoid]
      have hwhole : inner (part :: rest ++ [name]) =
          inner (part :: rest ++ void) ++ [.name name] := by
        rw [inner_append, h.inner_eq, inner_append_void (part :: rest) hvoid]
      rw [components, components, hpath, hjoin]
      cases part with
      | nil =>
          have hne : rest ++ void ≠ [] := by
            intro hnil
            have hempty := congrArg unsplit hpath
            rw [unsplit_split, List.cons_append, hnil] at hempty
            cases hempty
          simp [hne, hrest]
      | cons d p =>
          simp only [List.cons_append] at hwhole ⊢
          split
          · rw [hrest, List.cons_append]
          · exact hwhole

theorem namesOf_append (cs ds : List Component) :
    namesOf (cs ++ ds) = namesOf cs ++ namesOf ds := by
  induction cs with
  | nil => rfl
  | cons c cs ih =>
      cases c with
      | name s => rw [List.cons_append, namesOf, namesOf, ih, List.cons_append]
      | root => exact ih
      | current => exact ih
      | parent => exact ih

theorem names_join (path : Text) {name : Text} (h : IsName name) :
    names (join path name) = names path ++ [name] := by
  rw [names, components_join path h, namesOf_append]
  rfl

theorem names_descend (path : Text) {ns : List Text} (h : ∀ name ∈ ns, IsName name) :
    names (descend path ns) = names path ++ ns := by
  induction ns generalizing path with
  | nil => exact (List.append_nil _).symm
  | cons name ns ih =>
      rw [List.forall_mem_cons] at h
      rw [descend_cons, ih _ h.2, names_join path h.1, List.append_assoc, List.singleton_append]

theorem fileName?_join (path : Text) {name : Text} (h : IsName name) :
    fileName? (join path name) = some name := by
  rw [fileName?, components_join path h, List.getLast?_concat]

theorem exists_components {path part : Text} {parts : List Text}
    (h : split path = parts ++ [part]) (hvoid : ¬ (part = [] ∨ part = ['.']))
    (hparent : part ≠ "..".toList) : ∃ cs, components path = cs ++ [.name part] := by
  have hlast (xs : List Text) : inner (xs ++ [part]) = inner xs ++ [.name part] := by
    rw [inner_append, inner, if_neg hvoid, if_neg hparent, inner]
  rw [components, h]
  cases parts with
  | nil =>
      cases part with
      | nil => exact absurd (.inl rfl) hvoid
      | cons c s =>
          have hdot : c :: s ≠ ['.'] := fun heq => hvoid (.inr heq)
          exact ⟨[], (if_neg hdot).trans (hlast [])⟩
  | cons first rest =>
      cases first with
      | nil =>
          have hrest : (rest ++ [part]).isEmpty = false := by simp
          refine ⟨.root :: inner rest, ?_⟩
          exact (if_neg (by simp [hrest])).trans (congrArg (.root :: ·) (hlast rest))
      | cons c s =>
          by_cases hdot : c :: s = ['.']
          · refine ⟨.current :: inner rest, ?_⟩
            exact (if_pos hdot).trans (congrArg (.current :: ·) (hlast rest))
          · refine ⟨inner ((c :: s) :: rest), ?_⟩
            exact (if_neg hdot).trans (hlast ((c :: s) :: rest))

theorem fileName?_of_split {path part : Text} {parts : List Text}
    (h : split path = parts ++ [part]) (hvoid : ¬ (part = [] ∨ part = ['.']))
    (hparent : part ≠ "..".toList) : fileName? path = some part := by
  obtain ⟨cs, hcs⟩ := exists_components h hvoid hparent
  rw [fileName?, hcs, List.getLast?_concat]

theorem isAbsolute_join {path : Text} (hpath : path ≠ []) {name : Text} (h : IsName name) :
    isAbsolute (join path name) = isAbsolute path := by
  obtain ⟨c, s, rfl⟩ := List.exists_cons_of_ne_nil hpath
  rw [join, h.not_isAbsolute]
  simp only [List.isEmpty_cons, Bool.or_self, Bool.false_eq_true, if_false]
  split
  · rfl
  · rfl

end Path

namespace FileTree

open Tidymark.Path

variable {root : FileTree} {here start l : Location} {path : Text}

/-! ## Where paths lead -/

theorem isSome_at?_of_follow? {parts : List Text} (h : root.follow? here parts = some l) :
    (root.at? l).isSome = true := by
  induction parts generalizing here with
  | nil =>
      rw [follow?] at h
      split at h
      · next hsome =>
          cases h
          exact hsome
      · cases h
  | cons part rest ih =>
      rw [follow?] at h
      split at h
      · split at h
        · exact ih h
        · split at h
          · exact ih h
          · exact ih h
      · cases h

theorem follow?_file (content : Bytes) {part : Text} {rest : List Text} :
    (file content).follow? here (part :: rest) = none := by
  rw [follow?]
  cases here with
  | nil => rfl
  | cons name here => rfl

theorem locate?_file (content : Bytes) (here : Location) (path : Text) :
    (file content).locate? here path = none := by
  obtain ⟨part, rest, hparts⟩ := List.exists_cons_of_ne_nil (split_ne_nil path)
  rw [locate?, hparts]
  split
  · rfl
  · exact follow?_file content

theorem follow?_append (root : FileTree) (here : Location) (xs ys : List Text) :
    root.follow? here (xs ++ ys) = (root.follow? here xs).bind (root.follow? · ys) := by
  induction xs generalizing here with
  | nil =>
      rw [List.nil_append, follow?]
      cases hat : root.at? here with
      | some t => rfl
      | none =>
          cases ys with
          | nil => simp [follow?, hat]
          | cons part rest => simp [follow?, hat]
  | cons part xs ih =>
      rw [List.cons_append, follow?, follow?]
      split
      · split
        · exact ih _
        · split
          · exact ih _
          · exact ih _
      · rfl

/-- One more part leads to the same place, up, or to an entry of a directory. -/
theorem follow?_singleton {part : Text} (h : root.follow? here [part] = some l) :
    root.entryAt? here = some .directory ∧
      ((part = [] ∨ part = ['.']) ∧ l = here ∨ part = "..".toList ∧ l = here.dropLast ∨
        ¬ (part = [] ∨ part = ['.']) ∧ part ≠ "..".toList ∧ l = here ++ [part]) := by
  have hend {l' : Location} (h : root.follow? l' [] = some l) : l = l' := by
    rw [follow?] at h
    split at h
    · exact (Option.some.inj h).symm
    · cases h
  rw [follow?] at h
  split at h
  · next entries hat =>
      refine ⟨entryAt?_eq_directory_iff.mpr ⟨entries, hat⟩, ?_⟩
      split at h
      · next hvoid => exact .inl ⟨hvoid, hend h⟩
      · next hvoid =>
          split at h
          · next hparent => exact .inr (.inl ⟨hparent, hend h⟩)
          · next hparent => exact .inr (.inr ⟨hvoid, hparent, hend h⟩)
  · cases h

theorem eq_of_follow?_void {void : List Text} (hvoid : void = [] ∨ void = [[]])
    (h : root.follow? here void = some l) : l = here := by
  rcases hvoid with rfl | rfl
  · rw [follow?] at h
    split at h
    · exact (Option.some.inj h).symm
    · cases h
  · obtain ⟨-, hcase⟩ := follow?_singleton h
    rcases hcase with ⟨-, heq⟩ | ⟨hparent, -⟩ | ⟨hvoid, -⟩
    · exact heq
    · cases hparent
    · exact absurd (.inl rfl) hvoid

/-- A path that is joined with a name leads to the entry of that name. -/
theorem locate?_join {name : Text} (hname : IsName name)
    (h : root.locate? here path = some start)
    (hchild : root.entryAt? (start ++ [name]) ≠ none) :
    root.locate? here (join path name) = some (start ++ [name]) := by
  have hpath : path ≠ [] := by
    rintro rfl
    cases h
  obtain ⟨parts, void, -, hvoid, hsplit, hjoin⟩ := exists_split_join hpath hname
  have hdirectory : root.entryAt? start = some .directory :=
    entryAt?_of_append (List.cons_ne_nil name []) hchild
  obtain ⟨entries, hentries⟩ := entryAt?_eq_directory_iff.mp hdirectory
  have hsome : (root.at? (start ++ [name])).isSome = true := by
    rw [Option.isSome_iff_ne_none]
    intro hnone
    apply hchild
    rw [entryAt?, hnone, Option.map_none]
  have hlast : root.follow? start [name] = some (start ++ [name]) := by
    rw [follow?, hentries]
    dsimp only
    rw [if_neg (not_or.mpr ⟨hname.ne_nil, hname.ne_current⟩), if_neg hname.ne_parent, follow?,
      if_pos hsome]
  rw [locate?, if_neg (by simpa using hpath), hsplit, follow?_append, Option.bind_eq_some_iff] at h
  obtain ⟨mid, hmid, hend⟩ := h
  obtain rfl := eq_of_follow?_void hvoid hend
  have hjoined : join path name ≠ [] := by
    intro hnil
    have hname' := fileName?_join path hname
    rw [hnil] at hname'
    cases hname'
  rw [locate?, if_neg (by simpa using hjoined), isAbsolute_join hpath hname, hjoin, follow?_append,
    hmid, Option.bind_some, hlast]

/-- Names lead on from where a path leads, as long as something stands there. -/
theorem locate?_descend {names : List Text} (hnames : ∀ name ∈ names, IsName name)
    (h : root.locate? here path = some start)
    (hend : root.entryAt? (start ++ names) ≠ none) :
    root.locate? here (descend path names) = some (start ++ names) := by
  induction names generalizing path start with
  | nil => rwa [List.append_nil]
  | cons name names ih =>
      rw [List.forall_mem_cons] at hnames
      have hassoc : start ++ name :: names = start ++ [name] ++ names := by simp
      rw [hassoc] at hend ⊢
      have hchild : root.entryAt? (start ++ [name]) ≠ none := by
        by_cases hnil : names = []
        · rwa [hnil, List.append_nil] at hend
        · rw [entryAt?_of_append hnil hend]
          exact Option.some_ne_none _
      rw [descend_cons]
      exact ih hnames.2 (locate?_join hnames.1 h hchild) hend

/-- A path that leads to a file ends in the name of the file. -/
theorem fileName?_of_locate? {content : Bytes} (h : root.locate? here path = some l)
    (hfile : root.entryAt? l = some (.file content)) : fileName? path = l.getLast? := by
  rw [locate?] at h
  split at h
  · cases h
  · obtain ⟨parts, part, hsplit⟩ : ∃ parts part, split path = parts ++ [part] := by
      rcases List.eq_nil_or_concat (split path) with hnil | ⟨parts, part, hparts⟩
      · exact absurd hnil (split_ne_nil path)
      · exact ⟨parts, part, by rwa [List.concat_eq_append] at hparts⟩
    rw [hsplit, follow?_append, Option.bind_eq_some_iff] at h
    obtain ⟨mid, -, hlast⟩ := h
    obtain ⟨hdirectory, hcase⟩ := follow?_singleton hlast
    rcases hcase with ⟨-, rfl⟩ | ⟨-, rfl⟩ | ⟨hvoid, hparent, rfl⟩
    · rw [hdirectory] at hfile
      cases hfile
    · -- What is above a directory is a directory.
      rcases List.eq_nil_or_concat mid with rfl | ⟨dir, name, rfl⟩
      · rw [List.dropLast_nil, hdirectory] at hfile
        cases hfile
      · rw [List.concat_eq_append] at hdirectory hfile
        rw [List.dropLast_concat] at hfile
        have hsome : root.entryAt? (dir ++ [name]) ≠ none := by
          rw [hdirectory]
          exact Option.some_ne_none _
        have habove := entryAt?_of_append (List.cons_ne_nil name []) hsome
        rw [habove] at hfile
        cases hfile
    · rw [fileName?_of_split hsplit hvoid hparent, List.getLast?_concat]

/-! ## Proper trees -/

mutual

/-- The entries of every directory have distinct names. -/
def Proper : FileTree → Prop
  | .file _ => True
  | .directory entries => (entries.map (·.1)).Nodup ∧ ProperEntries entries

def ProperEntries : List (Text × FileTree) → Prop
  | [] => True
  | (name, t) :: rest => IsName name ∧ Proper t ∧ ProperEntries rest

end

theorem ProperEntries.of_mem {entries : List (Text × FileTree)} (h : ProperEntries entries)
    {name : Text} {t : FileTree} (hmem : (name, t) ∈ entries) : IsName name ∧ t.Proper := by
  induction entries with
  | nil => cases hmem
  | cons e rest ih =>
      obtain ⟨other, u⟩ := e
      rw [ProperEntries] at h
      rcases List.mem_cons.mp hmem with heq | hmem
      · cases heq
        exact ⟨h.1, h.2.1⟩
      · exact ih h.2.2 hmem

theorem mem_of_lookup_eq_some {entries : List (Text × FileTree)} {name : Text} {t : FileTree}
    (h : entries.lookup name = some t) : (name, t) ∈ entries := by
  induction entries with
  | nil => cases h
  | cons e rest ih =>
      obtain ⟨other, u⟩ := e
      rw [lookup_cons_eq_ite] at h
      split at h
      · next heq =>
          cases h
          rw [heq]
          exact List.mem_cons_self
      · exact List.mem_cons_of_mem _ (ih h)

theorem Proper.child {root t : FileTree} (h : root.Proper) {name : Text}
    (hchild : root.child? name = some t) : IsName name ∧ t.Proper := by
  cases root with
  | file content => cases hchild
  | directory entries => exact h.2.of_mem (mem_of_lookup_eq_some hchild)

/-- What stands at a location of a proper tree is proper, and the location consists of names. -/
theorem Proper.at? {root t : FileTree} (h : root.Proper) {l : Location}
    (hat : root.at? l = some t) : (∀ name ∈ l, IsName name) ∧ t.Proper := by
  induction l generalizing root with
  | nil =>
      cases hat
      exact ⟨by simp, h⟩
  | cons name l ih =>
      rw [FileTree.at?, Option.bind_eq_some_iff] at hat
      obtain ⟨u, hchild, hat⟩ := hat
      obtain ⟨hname, hu⟩ := h.child hchild
      obtain ⟨hnames, ht⟩ := ih hu hat
      exact ⟨List.forall_mem_cons.mpr ⟨hname, hnames⟩, ht⟩

end FileTree

end Tidymark
