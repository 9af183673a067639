import Tidymark.Proofs.Discovery.Extensions
import Tidymark.Proofs.Discovery.Walk

/-!
# The files to format

Every file that one of the paths leads to, or leads above, is found once, by
the first path that finds it.
-/

namespace Tidymark

open Tidymark.Path FileTree

namespace Discovery

/-! ## Files found once -/

theorem distinct_cons (seen : List Location) (f : SourceFile) (rest : List SourceFile) :
    distinct seen (f :: rest) =
      if f.location ∈ seen then distinct seen rest
      else f :: distinct (f.location :: seen) rest := by
  rw [distinct]
  simp only [List.contains_iff_mem]

theorem mem_locations_distinct {seen : List Location} {files : List SourceFile} {l : Location} :
    l ∈ (distinct seen files).map (·.location) ↔ l ∉ seen ∧ l ∈ files.map (·.location) := by
  induction files generalizing seen with
  | nil => simp [distinct]
  | cons f rest ih =>
      rw [distinct_cons]
      split
      · next hseen =>
          rw [ih, List.map_cons, List.mem_cons]
          constructor
          · exact fun ⟨hl, hrest⟩ => ⟨hl, .inr hrest⟩
          · rintro ⟨hl, rfl | hrest⟩
            · exact absurd hseen hl
            · exact ⟨hl, hrest⟩
      · next hseen =>
          rw [List.map_cons, List.map_cons, List.mem_cons, List.mem_cons, ih, List.mem_cons, not_or]
          constructor
          · rintro (rfl | ⟨⟨-, hl⟩, hrest⟩)
            · exact ⟨hseen, .inl rfl⟩
            · exact ⟨hl, .inr hrest⟩
          · rintro ⟨hl, heq⟩
            by_cases hf : l = f.location
            · exact .inl hf
            · exact .inr ⟨⟨hf, hl⟩, heq.resolve_left hf⟩

theorem nodup_distinct (seen : List Location) (files : List SourceFile) :
    ((distinct seen files).map (·.location)).Nodup := by
  induction files generalizing seen with
  | nil => exact List.nodup_nil
  | cons f rest ih =>
      rw [distinct_cons]
      split
      · exact ih seen
      · rw [List.map_cons, List.nodup_cons, mem_locations_distinct]
        exact ⟨fun hmem => hmem.1 List.mem_cons_self, ih _⟩

theorem mem_of_mem_distinct {seen : List Location} {files : List SourceFile} {f : SourceFile}
    (h : f ∈ distinct seen files) : f ∈ files := by
  induction files generalizing seen with
  | nil => exact h
  | cons g rest ih =>
      rw [distinct_cons] at h
      split at h
      · exact List.mem_cons_of_mem _ (ih h)
      · rcases List.mem_cons.mp h with rfl | h
        · exact List.mem_cons_self
        · exact List.mem_cons_of_mem _ (ih h)

/-- Having seen more only leaves out what is at the further locations. -/
theorem distinct_eq_filter {seen more all : List Location} (files : List SourceFile)
    (hall : ∀ l, l ∈ all ↔ l ∈ seen ∨ l ∈ more) :
    distinct all files = (distinct more files).filter fun f => f.location ∉ seen := by
  induction files generalizing more all with
  | nil => rfl
  | cons f rest ih =>
      rw [distinct_cons, distinct_cons]
      by_cases hmore : f.location ∈ more
      · rw [if_pos ((hall _).mpr (.inr hmore)), if_pos hmore]
        exact ih hall
      · rw [if_neg hmore]
        by_cases hseen : f.location ∈ seen
        · rw [if_pos ((hall _).mpr (.inl hseen)), List.filter_cons_of_neg (by simpa using hseen)]
          apply ih
          intro l
          rw [hall, List.mem_cons]
          constructor
          · exact Or.imp_right .inr
          · rintro (hl | rfl | hl)
            · exact .inl hl
            · exact .inl hseen
            · exact .inr hl
        · have hnew : f.location ∉ all := by
            rw [hall, not_or]
            exact ⟨hseen, hmore⟩
          rw [if_neg hnew, List.filter_cons_of_pos (by simpa using hseen)]
          congr 1
          apply ih
          intro l
          rw [List.mem_cons, List.mem_cons, hall]
          exact or_left_comm

theorem distinct_append (seen : List Location) (xs ys : List SourceFile) :
    distinct seen (xs ++ ys) =
      distinct seen xs ++
        (distinct seen ys).filter fun f => f.location ∉ (distinct seen xs).map (·.location) := by
  induction xs generalizing seen with
  | nil => exact (List.filter_eq_self.mpr (by simp [distinct])).symm
  | cons x xs ih =>
      rw [List.cons_append, distinct_cons, distinct_cons]
      split
      · exact ih seen
      · have hmore : ∀ l, l ∈ x.location :: seen ↔ l ∈ [x.location] ∨ l ∈ seen := by simp
        rw [ih, List.cons_append, List.map_cons,
          distinct_eq_filter ys hmore,
          List.filter_filter]
        congr 2
        apply List.filter_congr
        intro f hf
        rw [← Bool.decide_and]
        exact decide_eq_decide.mpr (by simp [and_comm])

/-! ## Files that paths lead to -/

variable {patterns : List Text} {root : FileTree} {here : Location}

/-- The files that one path leads to or above. -/
def below (patterns : List Text) (root : FileTree) (here : Location) (path : Text) :
    List SourceFile :=
  match root.locate? here path with
  | none => []
  | some l => (root.at? l).elim [] (walk patterns path l)

theorem exists_at?_of_locate? {path : Text} {l : Location}
    (h : root.locate? here path = some l) : ∃ t, root.at? l = some t := by
  rw [locate?] at h
  split at h
  · cases h
  · exact Option.isSome_iff_exists.mp (isSome_at?_of_follow? h)

/-- What paths lead to is collected up to the first path that leads nowhere. -/
theorem reach_eq (paths : List Text) :
    reach patterns root here paths =
      match paths.find? (fun path => (root.locate? here path).isNone) with
      | some path => .error (.missingPath path)
      | none => .ok (paths.flatMap (below patterns root here)) := by
  induction paths with
  | nil => rfl
  | cons path rest ih =>
      rw [reach, List.find?_cons, List.flatMap_cons, below]
      cases hlocate : root.locate? here path with
      | none => rfl
      | some l =>
          obtain ⟨t, ht⟩ := exists_at?_of_locate? hlocate
          simp only [ht, ih, Option.isNone_some]
          cases rest.find? (fun path => (root.locate? here path).isNone) with
          | none => rfl
          | some missing => rfl

/-- A path leads to a file or above it, and nothing from the path down to the file is ignored. -/
def Reaches (patterns : List Text) (root : FileTree) (here : Location) (path : Text)
    (l : Location) : Prop :=
  ∃ start names content, root.locate? here path = some start ∧ l = start ++ names ∧
    root.at? l = some (.file content) ∧
    ∀ ns, ns <+: names → isIgnored patterns (descend path ns) = false

theorem exists_mem_walk_of_mem_below {path : Text} {f : SourceFile}
    (h : f ∈ below patterns root here path) :
    ∃ start t, root.locate? here path = some start ∧ root.at? start = some t ∧
      f ∈ walk patterns path start t := by
  rw [below] at h
  cases hlocate : root.locate? here path with
  | none =>
      rw [hlocate] at h
      cases h
  | some start =>
      obtain ⟨t, ht⟩ := exists_at?_of_locate? hlocate
      rw [hlocate] at h
      dsimp only at h
      rw [ht, Option.elim_some] at h
      exact ⟨start, t, rfl, ht, h⟩

theorem mem_below_iff (hroot : root.Proper) {path : Text} {f : SourceFile} :
    f ∈ below patterns root here path ↔
      ∃ start t, root.locate? here path = some start ∧ root.at? start = some t ∧
        Found patterns path start t f := by
  constructor
  · intro h
    obtain ⟨start, t, hlocate, ht, hwalk⟩ := exists_mem_walk_of_mem_below h
    exact ⟨start, t, hlocate, ht, (mem_walk t (hroot.at? ht).2 path start).mp hwalk⟩
  · rintro ⟨start, t, hlocate, ht, hfound⟩
    rw [below, hlocate]
    dsimp only
    rw [ht, Option.elim_some]
    exact (mem_walk t (hroot.at? ht).2 path start).mpr hfound

theorem exists_mem_below_iff (hroot : root.Proper) {path : Text} {l : Location} :
    (∃ f ∈ below patterns root here path, f.location = l) ↔
      Reaches patterns root here path l := by
  constructor
  · rintro ⟨f, hf, rfl⟩
    obtain ⟨start, t, hlocate, ht, names, content, hat, hclear, rfl⟩ := (mem_below_iff hroot).mp hf
    refine ⟨start, names, content, hlocate, rfl, ?_, hclear⟩
    rw [at?_append, ht]
    exact hat
  · rintro ⟨start, names, content, hlocate, rfl, hat, hclear⟩
    rw [at?_append, Option.bind_eq_some_iff] at hat
    obtain ⟨t, ht, hat⟩ := hat
    refine ⟨⟨descend path names, start ++ names, content.length⟩, ?_, rfl⟩
    rw [mem_below_iff hroot]
    exact ⟨start, t, hlocate, ht, names, content, hat, hclear, rfl⟩

/-- A found file stands where its path leads, and its extension is that of its name. -/
theorem path_of_mem_below (hroot : root.Proper) {path : Text} {f : SourceFile}
    (hf : f ∈ below patterns root here path) (extensions : List Text) :
    root.locate? here f.path = some f.location ∧
      (isAllowed extensions f.path = true ↔ AllowedUpTo Text.lower extensions f.location) := by
  obtain ⟨start, t, hlocate, ht, names, content, hat, -, rfl⟩ := (mem_below_iff hroot).mp hf
  have hfile : root.at? (start ++ names) = some (.file content) := by
    rw [at?_append, ht]
    exact hat
  have hentry := entryAt?_eq_file_iff.mpr hfile
  have hpath : root.locate? here (descend path names) = some (start ++ names) := by
    apply locate?_descend ((hroot.at? ht).2.at? hat).1 hlocate
    rw [hentry]
    exact Option.some_ne_none _
  exact ⟨hpath, isAllowed_iff (fileName?_of_locate? hpath hentry)⟩

end Discovery

open Discovery

/-- The files that are found for given paths, if all paths lead somewhere. -/
def filesAt (c : Config) (root : FileTree) (here : Location) (paths : List Text) :
    List SourceFile :=
  distinct [] ((paths.flatMap (below c.files.ignorePatterns root here)).filter
    fun f => isAllowed c.files.extensions f.path)

theorem findFiles_eq (c : Config) (root : FileTree) (here : Location) (paths : List Text) :
    findFiles c root here paths =
      match paths.find? (fun path => (root.locate? here path).isNone) with
      | some path => .error (.missingPath path)
      | none => .ok (filesAt c root here paths) := by
  rw [findFiles, reach_eq]
  cases paths.find? (fun path => (root.locate? here path).isNone) with
  | none => rfl
  | some missing => rfl

theorem findFiles_eq_ok_iff {c : Config} {root : FileTree} {here : Location} {paths : List Text}
    {found : List SourceFile} :
    findFiles c root here paths = .ok found ↔
      (∀ path ∈ paths, root.locate? here path ≠ none) ∧ filesAt c root here paths = found := by
  rw [findFiles_eq]
  cases hfind : paths.find? (fun path => (root.locate? here path).isNone) with
  | none =>
      have hall : ∀ path ∈ paths, root.locate? here path ≠ none := by
        simpa using hfind
      constructor
      · rintro ⟨rfl⟩
        exact ⟨hall, rfl⟩
      · rintro ⟨-, rfl⟩
        rfl
  | some path =>
      have hmissing := List.find?_some hfind
      have hmem := List.mem_of_find?_eq_some hfind
      constructor
      · intro h; cases h
      · rintro ⟨hall, -⟩
        exact absurd (by simpa using hmissing) (hall path hmem)

theorem nodup_filesAt (c : Config) (root : FileTree) (here : Location) (paths : List Text) :
    ((filesAt c root here paths).map (·.location)).Nodup :=
  nodup_distinct [] _

theorem filesAt_append (c : Config) (root : FileTree) (here : Location) (ps qs : List Text) :
    filesAt c root here (ps ++ qs) =
      filesAt c root here ps ++ (filesAt c root here qs).filter
        fun f => f.location ∉ (filesAt c root here ps).map (·.location) := by
  rw [filesAt, List.flatMap_append, List.filter_append, distinct_append]
  rfl

theorem exists_mem_below_of_mem_filesAt {c : Config} {root : FileTree} {here : Location}
    {paths : List Text} {f : SourceFile} (h : f ∈ filesAt c root here paths) :
    ∃ path ∈ paths, f ∈ below c.files.ignorePatterns root here path := by
  have hmem := mem_of_mem_distinct h
  exact List.mem_flatMap.mp (List.mem_filter.mp hmem).1

theorem location_ne_nil_of_mem_filesAt {c : Config} {root : FileTree} {here : Location}
    {paths : List Text} {f : SourceFile} (h : f ∈ filesAt c root here paths) :
    f.location ≠ [] := by
  obtain ⟨path, -, hbelow⟩ := exists_mem_below_of_mem_filesAt h
  obtain ⟨start, t, hlocate, ht, hwalk⟩ := exists_mem_walk_of_mem_below hbelow
  intro hnil
  have hstart : start = [] := by
    have hfront := prefix_of_mem_walk t path start hwalk
    rwa [hnil, List.prefix_nil] at hfront
  subst hstart
  cases ht
  cases root with
  | file content =>
      rw [locate?_file] at hlocate
      cases hlocate
  | directory entries =>
      rw [walk] at hwalk
      split at hwalk
      · cases hwalk
      · obtain ⟨name, hname⟩ := exists_prefix_of_mem_walkEntries entries path [] hwalk
        rw [hnil, List.prefix_nil] at hname
        cases hname

/-- The places of the found files: those with an allowed extension that a path reaches. -/
theorem mem_locations_filesAt {c : Config} {root : FileTree} (hroot : root.Proper)
    {here : Location} {paths : List Text} {l : Location} :
    l ∈ (filesAt c root here paths).map (·.location) ↔
      AllowedUpTo Text.lower c.files.extensions l ∧
        ∃ path ∈ paths, Reaches c.files.ignorePatterns root here path l := by
  rw [filesAt, mem_locations_distinct, List.mem_map]
  constructor
  · rintro ⟨-, f, hf, rfl⟩
    rw [List.mem_filter, List.mem_flatMap] at hf
    obtain ⟨⟨path, hpath, hbelow⟩, hallowed⟩ := hf
    refine ⟨(path_of_mem_below hroot hbelow c.files.extensions).2.mp hallowed, path, hpath, ?_⟩
    exact (exists_mem_below_iff hroot).mp ⟨f, hbelow, rfl⟩
  · rintro ⟨hallowed, path, hpath, hreaches⟩
    obtain ⟨f, hbelow, rfl⟩ := (exists_mem_below_iff hroot).mpr hreaches
    refine ⟨List.not_mem_nil, f, ?_, rfl⟩
    rw [List.mem_filter, List.mem_flatMap]
    refine ⟨⟨path, hpath, hbelow⟩, ?_⟩
    exact (path_of_mem_below hroot hbelow c.files.extensions).2.mpr hallowed

/-- **Discovery is complete, and finds each file once.**  It fails with the first path that leads
nowhere.  Otherwise the found files have distinct locations, where their paths lead; they stand at
exactly the locations with an allowed extension that one of the paths reaches.  An extension is
allowed by its lower-case form, so up to letter case only, and exactly up to letter case unless
there is a sigma in what is allowed.  More paths only add the files that are not found before; and
if all patterns stand for directories, a walk finds what a walk without patterns finds, less what is
ignored. -/
theorem findFiles_complete (c : Config) (root : FileTree) (here : Location)
    (hroot : root.Proper) :
    (∀ before path after, (∀ p ∈ before, root.locate? here p ≠ none) →
      root.locate? here path = none →
      findFiles c root here (before ++ path :: after) = .error (.missingPath path)) ∧
    (∀ paths, (∀ path ∈ paths, root.locate? here path ≠ none) →
      ∃ found, findFiles c root here paths = .ok found ∧
        (found.map (·.location)).Nodup ∧
        (∀ f ∈ found, root.locate? here f.path = some f.location) ∧
        ∀ l, l ∈ found.map (·.location) ↔
          AllowedUpTo Text.lower c.files.extensions l ∧
            ∃ path ∈ paths, Reaches c.files.ignorePatterns root here path l) ∧
    (∀ l, AllowedUpTo Text.lower c.files.extensions l →
      AllowedUpTo Text.caseless c.files.extensions l) ∧
    ((∀ e ∈ c.files.extensions, '\u03C3' ∉ Text.caseless e) →
      ∀ l, AllowedUpTo Text.lower c.files.extensions l ↔
        AllowedUpTo Text.caseless c.files.extensions l) ∧
    (∀ ps qs first second, findFiles c root here ps = .ok first →
      findFiles c root here qs = .ok second →
      findFiles c root here (ps ++ qs) =
        .ok (first ++ second.filter fun f => f.location ∉ first.map (·.location))) ∧
    ((∀ pattern ∈ c.files.ignorePatterns, IsDirectoryPattern pattern) →
      ∀ path l t, root.at? l = some t →
        walk c.files.ignorePatterns path l t =
          (walk [] path l t).filter fun f => !isIgnored c.files.ignorePatterns f.path) := by
  refine ⟨?_, ?_, fun l => AllowedUpTo.caseless, fun hsigma l => allowedUpTo_lower_iff hsigma,
    ?_, ?_⟩
  · intro before path after hbefore hpath
    have hfind : (before ++ path :: after).find? (fun path => (root.locate? here path).isNone) =
        some path := by
      rw [List.find?_eq_some_iff_append]
      refine ⟨by simp [hpath], before, after, rfl, ?_⟩
      intro p hp
      simpa [Option.isSome_iff_ne_none] using hbefore p hp
    rw [findFiles_eq, hfind]
  · intro paths hpaths
    refine ⟨_, findFiles_eq_ok_iff.mpr ⟨hpaths, rfl⟩, nodup_filesAt c root here paths, ?_, ?_⟩
    · intro f hf
      obtain ⟨path, -, hbelow⟩ := exists_mem_below_of_mem_filesAt hf
      exact (path_of_mem_below hroot hbelow []).1
    · intro l
      exact mem_locations_filesAt hroot
  · intro ps qs first second hfirst hsecond
    obtain ⟨hps, rfl⟩ := findFiles_eq_ok_iff.mp hfirst
    obtain ⟨hqs, rfl⟩ := findFiles_eq_ok_iff.mp hsecond
    rw [findFiles_eq_ok_iff]
    refine ⟨?_, filesAt_append c root here ps qs⟩
    intro path hpath
    rcases List.mem_append.mp hpath with hpath | hpath
    · exact hps path hpath
    · exact hqs path hpath
  · intro hpatterns path l t ht
    exact walk_eq_filter hpatterns t (hroot.at? ht).2 path l

/-- A directory with a file to format, a note and a directory to leave out. -/
theorem findFiles_complete_docs :
    let docs : FileTree := .directory
      [("a.MD".toList, .file []), ("note.txt".toList, .file []),
        ("target".toList, .directory [("b.md".toList, .file [])])]
    let root : FileTree := .directory [("docs".toList, docs)]
    let c : Config := { files := { ignorePatterns := ["target/**".toList] } }
    findFiles c root [] ["docs".toList, "gone".toList] = .error (.missingPath "gone".toList) ∧
      (∃ found, findFiles c root [] ["docs".toList] = .ok found ∧
        ["docs".toList, "a.MD".toList] ∈ found.map (·.location)) ∧
      (∀ l, AllowedUpTo Text.lower c.files.extensions l ↔
        AllowedUpTo Text.caseless c.files.extensions l) ∧
      walk c.files.ignorePatterns "docs".toList ["docs".toList] docs =
        (walk [] "docs".toList ["docs".toList] docs).filter
          fun f => !isIgnored c.files.ignorePatterns f.path := by
  intro docs root c
  have hroot : root.Proper := by
    refine ⟨by decide, by decide, ?_, trivial⟩
    refine ⟨by decide, by decide, trivial, by decide, trivial, by decide, ?_, trivial⟩
    exact ⟨by decide, by decide, trivial, trivial⟩
  obtain ⟨hmissing, hfound, -, hcaseless, -, hwalk⟩ := findFiles_complete c root [] hroot
  refine ⟨?_, ?_, hcaseless (by decide), ?_⟩
  · exact hmissing ["docs".toList] "gone".toList [] (by decide) (by decide)
  · obtain ⟨found, hok, -, -, hmem⟩ := hfound ["docs".toList] (by decide)
    have hallowed : AllowedUpTo Text.lower c.files.extensions ["docs".toList, "a.MD".toList] :=
      ⟨"a.MD".toList, "MD".toList, rfl, ⟨['a'], by decide, rfl, by decide⟩, ".md".toList,
        by decide, by decide⟩
    refine ⟨found, hok, (hmem _).mpr ⟨hallowed, "docs".toList, ?_, ?_⟩⟩
    · exact List.mem_singleton.mpr rfl
    · refine ⟨["docs".toList], ["a.MD".toList], [], by decide, rfl, rfl, ?_⟩
      intro ns hns
      rcases List.prefix_cons_iff.mp hns with rfl | ⟨rest, rfl, hrest⟩
      · decide
      · rw [List.prefix_nil.mp hrest]
        decide
  · apply hwalk
    · intro pattern hpattern
      rw [List.mem_singleton.mp hpattern]
      exact ⟨"target".toList, rfl⟩
    · rfl

/-- The capital sigma at the end of an extension becomes a final one, which the small sigma that is
allowed is not. -/
theorem findFiles_misses_capital_sigma :
    let root : FileTree := .directory [("a.ΑΣ".toList, .file []), ("b.ασ".toList, .file [])]
    let c : Config := { files := { extensions := [".ασ".toList] } }
    root.Proper ∧ AllowedUpTo Text.caseless c.files.extensions ["a.ΑΣ".toList] ∧
      Reaches c.files.ignorePatterns root [] ['.'] ["a.ΑΣ".toList] ∧
      findFiles c root [] [['.']] = .ok [⟨"./b.ασ".toList, ["b.ασ".toList], 0⟩] := by
  intro root c
  refine ⟨?_, ?_, ?_, by decide⟩
  · exact ⟨by decide, by decide, trivial, by decide, trivial, trivial⟩
  · exact ⟨"a.ΑΣ".toList, "ΑΣ".toList, rfl, ⟨['a'], by decide, rfl, by decide⟩, ".ασ".toList,
      by decide, by decide⟩
  · refine ⟨[], ["a.ΑΣ".toList], [], by decide, rfl, rfl, ?_⟩
    intro ns hns
    rcases List.prefix_cons_iff.mp hns with rfl | ⟨rest, rfl, hrest⟩
    · decide
    · rw [List.prefix_nil.mp hrest]
      decide

end Tidymark
