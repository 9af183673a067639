import Tidymark.Discovery
import Tidymark.Proofs.Discovery.Patterns

/-!
# What a walk finds

A walk finds the files below a path to which no ignored path leads on the way.
Where every pattern stands for a directory and all below it, what lies below an
ignored path is ignored itself, so that leaving it out early changes nothing.
-/

namespace Tidymark

open Tidymark.Path FileTree

namespace Discovery

/-- A file is found by a walk: nothing on the way to it is ignored, itself included. -/
def Found (patterns : List Text) (path : Text) (here : Location) (t : FileTree) (f : SourceFile) :
    Prop :=
  ∃ names content, t.at? names = some (.file content) ∧
    (∀ ns, ns <+: names → isIgnored patterns (descend path ns) = false) ∧
    f = ⟨descend path names, here ++ names, content.length⟩

variable {patterns : List Text} {path : Text} {here : Location} {f : SourceFile}

theorem found_file_iff {content : Bytes} :
    Found patterns path here (.file content) f ↔
      isIgnored patterns path = false ∧ f = ⟨path, here, content.length⟩ := by
  constructor
  · rintro ⟨names, content', hat, hclear, rfl⟩
    cases names with
    | nil =>
        cases hat
        refine ⟨hclear [] List.nil_prefix, ?_⟩
        rw [descend_nil, List.append_nil]
    | cons name names => cases hat
  · rintro ⟨hclear, rfl⟩
    refine ⟨[], content, rfl, ?_, ?_⟩
    · intro ns hns
      rw [List.prefix_nil.mp hns]
      exact hclear
    · rw [descend_nil, List.append_nil]

theorem found_directory_iff {entries : List (Text × FileTree)} :
    Found patterns path here (.directory entries) f ↔
      isIgnored patterns path = false ∧
        ∃ name t, entries.lookup name = some t ∧
          Found patterns (join path name) (here ++ [name]) t f := by
  constructor
  · rintro ⟨names, content, hat, hclear, rfl⟩
    refine ⟨hclear [] List.nil_prefix, ?_⟩
    cases names with
    | nil => cases hat
    | cons name names =>
        rw [at?, Option.bind_eq_some_iff] at hat
        obtain ⟨t, hlookup, hat⟩ := hat
        refine ⟨name, t, hlookup, names, content, hat, ?_, ?_⟩
        · intro ns hns
          exact hclear (name :: ns) (List.cons_prefix_cons.mpr ⟨rfl, hns⟩)
        · rw [descend_cons, List.append_assoc, List.singleton_append]
  · rintro ⟨hclear, name, t, hlookup, names, content, hat, hbelow, rfl⟩
    refine ⟨name :: names, content, ?_, ?_, ?_⟩
    · rw [at?, child?, hlookup]
      exact hat
    · intro ns hns
      rcases List.prefix_cons_iff.mp hns with rfl | ⟨rest, rfl, hrest⟩
      · exact hclear
      · exact hbelow rest hrest
    · rw [descend_cons, List.append_assoc, List.singleton_append]

theorem lookup_cons_eq_some_iff {name other : Text} {t u : FileTree}
    {rest : List (Text × FileTree)} (h : name ∉ rest.map (·.1)) :
    ((name, t) :: rest).lookup other = some u ↔
      other = name ∧ t = u ∨ rest.lookup other = some u := by
  rw [lookup_cons_eq_ite]
  split
  · next heq =>
      subst heq
      have hrest : rest.lookup other ≠ some u := by
        intro hlookup
        exact h (List.mem_map_of_mem (mem_of_lookup_eq_some hlookup))
      simp [hrest]
  · next hne => simp [hne]

mutual

theorem mem_walk (t : FileTree) (h : t.Proper) (path : Text) (here : Location) :
    f ∈ walk patterns path here t ↔ Found patterns path here t f := by
  cases t with
  | file content =>
      rw [walk, found_file_iff]
      cases isIgnored patterns path with
      | true => simp
      | false => simp
  | directory entries =>
      rw [walk, found_directory_iff]
      cases isIgnored patterns path with
      | true => simp
      | false => simpa using mem_walkEntries entries h.1 h.2 path here

theorem mem_walkEntries (entries : List (Text × FileTree)) (hnodup : (entries.map (·.1)).Nodup)
    (h : ProperEntries entries) (path : Text) (here : Location) :
    f ∈ walkEntries patterns path here entries ↔
      ∃ name t, entries.lookup name = some t ∧
        Found patterns (join path name) (here ++ [name]) t f := by
  cases entries with
  | nil => simp [walkEntries]
  | cons e rest =>
      obtain ⟨name, t⟩ := e
      rw [List.map_cons, List.nodup_cons] at hnodup
      rw [walkEntries, List.mem_append, mem_walk t h.2.1,
        mem_walkEntries rest hnodup.2 h.2.2]
      simp only [lookup_cons_eq_some_iff hnodup.1]
      constructor
      · rintro (hfound | ⟨other, u, hlookup, hfound⟩)
        · exact ⟨name, t, .inl ⟨rfl, rfl⟩, hfound⟩
        · exact ⟨other, u, .inr hlookup, hfound⟩
      · rintro ⟨other, u, ⟨rfl, rfl⟩ | hlookup, hfound⟩
        · exact .inl hfound
        · exact .inr ⟨other, u, hlookup, hfound⟩

end

mutual

/-- A walk stays below the location where it starts. -/
theorem prefix_of_mem_walk (t : FileTree) (path : Text) (here : Location)
    (h : f ∈ walk patterns path here t) : here <+: f.location := by
  cases t with
  | file content =>
      rw [walk] at h
      split at h
      · cases h
      · obtain rfl := List.mem_singleton.mp h
        exact List.prefix_refl here
  | directory entries =>
      rw [walk] at h
      split at h
      · cases h
      · obtain ⟨name, hname⟩ := exists_prefix_of_mem_walkEntries entries path here h
        exact (List.prefix_append here [name]).trans hname

theorem exists_prefix_of_mem_walkEntries (entries : List (Text × FileTree)) (path : Text)
    (here : Location) (h : f ∈ walkEntries patterns path here entries) :
    ∃ name, here ++ [name] <+: f.location := by
  cases entries with
  | nil => cases h
  | cons e rest =>
      obtain ⟨name, t⟩ := e
      rw [walkEntries, List.mem_append] at h
      rcases h with hfirst | hrest
      · exact ⟨name, prefix_of_mem_walk t (join path name) (here ++ [name]) hfirst⟩
      · exact exists_prefix_of_mem_walkEntries rest path here hrest

end

/-! ## Patterns of directories -/

/-- What lies below an ignored path is ignored, if all patterns stand for directories. -/
theorem isIgnored_descend (hpatterns : ∀ pattern ∈ patterns, IsDirectoryPattern pattern)
    {names : List Text} (hnames : ∀ name ∈ names, IsName name)
    (h : isIgnored patterns path = true) : isIgnored patterns (descend path names) = true := by
  rw [isIgnored_eq_true_iff] at h ⊢
  obtain ⟨pattern, hmem, hstands⟩ := h
  have hbelow : Path.names path <:+: Path.names (descend path names) := by
    rw [names_descend path hnames]
    exact (List.prefix_append _ _).isInfix
  exact ⟨pattern, hmem, hstands.of_names_infix (hpatterns pattern hmem) hbelow⟩

theorem isIgnored_nil (path : Text) : isIgnored [] path = false := rfl

theorem filter_walk_eq_nil (hpatterns : ∀ pattern ∈ patterns, IsDirectoryPattern pattern)
    (t : FileTree) (ht : t.Proper) (here : Location) (h : isIgnored patterns path = true) :
    (walk [] path here t).filter (fun f => !isIgnored patterns f.path) = [] := by
  rw [List.filter_eq_nil_iff]
  intro f hf
  obtain ⟨names, content, hat, -, rfl⟩ := (mem_walk t ht path here).mp hf
  rw [isIgnored_descend hpatterns (ht.at? hat).1 h]
  exact Bool.false_ne_true

mutual

/-- A walk that leaves out what lies below ignored directories finds what is not ignored. -/
theorem walk_eq_filter (hpatterns : ∀ pattern ∈ patterns, IsDirectoryPattern pattern)
    (t : FileTree) (ht : t.Proper) (path : Text) (here : Location) :
    walk patterns path here t =
      (walk [] path here t).filter (fun f => !isIgnored patterns f.path) := by
  cases hignored : isIgnored patterns path with
  | true =>
      rw [filter_walk_eq_nil hpatterns t ht here hignored]
      cases t with
      | file content => rw [walk, if_pos hignored]
      | directory entries => rw [walk, if_pos hignored]
  | false =>
      cases t with
      | file content => simp [walk, hignored, isIgnored_nil]
      | directory entries =>
          simpa [walk, hignored, isIgnored_nil] using
            walkEntries_eq_filter hpatterns entries ht.2 path here

theorem walkEntries_eq_filter (hpatterns : ∀ pattern ∈ patterns, IsDirectoryPattern pattern)
    (entries : List (Text × FileTree)) (h : ProperEntries entries) (path : Text)
    (here : Location) :
    walkEntries patterns path here entries =
      (walkEntries [] path here entries).filter (fun f => !isIgnored patterns f.path) := by
  cases entries with
  | nil => rfl
  | cons e rest =>
      obtain ⟨name, t⟩ := e
      rw [walkEntries, walkEntries, List.filter_append,
        walk_eq_filter hpatterns t h.2.1, walkEntries_eq_filter hpatterns rest h.2.2]

end

end Discovery

end Tidymark
