import Tidymark.FileTree

/-!
# Entries of a tree

A tree is told by what stands at each location: a file with its bytes, or a
directory.  Writing a file into a directory changes the entry at its location
and no other.
-/

namespace Tidymark

namespace FileTree

/-- What stands at a location, whatever is below it. -/
inductive Entry where
  | file (content : Bytes)
  | directory
  deriving DecidableEq, Repr

def entry : FileTree → Entry
  | .file content => .file content
  | .directory _ => .directory

def entryAt? (root : FileTree) (l : Location) : Option Entry := (root.at? l).map entry

def content? (root : FileTree) (l : Location) : Option Bytes :=
  match root.at? l with
  | some (.file content) => some content
  | _ => none

theorem entryAt?_eq_file_iff {root : FileTree} {l : Location} {content : Bytes} :
    root.entryAt? l = some (.file content) ↔ root.at? l = some (.file content) := by
  rw [entryAt?]
  rcases root.at? l with _ | (_ | _) <;> simp [entry]

theorem entryAt?_eq_directory_iff {root : FileTree} {l : Location} :
    root.entryAt? l = some .directory ↔ ∃ entries, root.at? l = some (.directory entries) := by
  rw [entryAt?]
  rcases root.at? l with _ | (_ | _) <;> simp [entry]

theorem content?_eq_some_iff {root : FileTree} {l : Location} {content : Bytes} :
    root.content? l = some content ↔ root.entryAt? l = some (.file content) := by
  rw [entryAt?_eq_file_iff, content?]
  rcases root.at? l with _ | (_ | _) <;> simp

/-! ## Entries on the way -/

theorem at?_append (root : FileTree) (l k : Location) :
    root.at? (l ++ k) = (root.at? l).bind (at? k) := by
  induction l generalizing root with
  | nil => rfl
  | cons name l ih =>
      rw [List.cons_append, at?, at?]
      cases root.child? name with
      | none => rfl
      | some t => exact ih t

theorem entryAt?_nil (root : FileTree) : root.entryAt? [] = some root.entry := rfl

theorem entryAt?_cons (root : FileTree) (name : Text) (l : Location) :
    root.entryAt? (name :: l) = (root.child? name).bind (entryAt? · l) := by
  rw [entryAt?, at?]
  cases root.child? name with
  | none => rfl
  | some t => rfl

theorem entryAt?_of_append {root : FileTree} {l k : Location} (hk : k ≠ [])
    (h : root.entryAt? (l ++ k) ≠ none) : root.entryAt? l = some .directory := by
  obtain ⟨name, k, rfl⟩ := List.exists_cons_of_ne_nil hk
  rw [entryAt?, at?_append] at h
  rw [entryAt?_eq_directory_iff]
  rcases hl : root.at? l with _ | (content | entries)
  · simp [hl] at h
  · simp [hl, at?, child?] at h
  · exact ⟨entries, rfl⟩

/-! ## Writing a file -/

theorem lookup_cons_eq_ite (name other : Text) (t : FileTree) (entries : List (Text × FileTree)) :
    ((name, t) :: entries).lookup other =
      if other = name then some t else entries.lookup other := by
  rw [List.lookup_cons]
  split
  · next h => rw [if_pos (beq_iff_eq.mp h)]
  · next h => rw [if_neg (beq_eq_false_iff_ne.mp h)]

theorem lookup_putEntry (name other : Text) (t : FileTree) (entries : List (Text × FileTree)) :
    (putEntry name t entries).lookup other =
      if other = name then some t else entries.lookup other := by
  induction entries with
  | nil => rw [putEntry, lookup_cons_eq_ite]
  | cons e rest ih =>
      obtain ⟨key, u⟩ := e
      rw [putEntry]
      by_cases hkey : key = name
      · subst hkey
        rw [if_pos rfl, lookup_cons_eq_ite, lookup_cons_eq_ite]
        split <;> rfl
      · rw [if_neg hkey]
        split
        · rw [lookup_cons_eq_ite]
        · rw [lookup_cons_eq_ite, lookup_cons_eq_ite, ih]
          by_cases h : other = key
          · subst h
            rw [if_pos rfl, if_pos rfl, if_neg hkey]
          · rw [if_neg h, if_neg h]

/-- A file can be written at a location: directories lead there, and none stands there. -/
structure Writable (root : FileTree) (l : Location) : Prop where
  free : root.entryAt? l ≠ some .directory
  reached : ∀ k, k <+: l → k ≠ l → root.entryAt? k = some .directory

theorem Writable.of_file {root : FileTree} {l : Location} {content : Bytes}
    (h : root.entryAt? l = some (.file content)) : Writable root l where
  free hdirectory := by
    rw [h] at hdirectory
    cases hdirectory
  reached k hk hne := by
    obtain ⟨rest, rfl⟩ := hk
    apply entryAt?_of_append (k := rest)
    · rintro rfl
      exact hne (List.append_nil k).symm
    · rw [h]
      exact Option.some_ne_none _

theorem Writable.of_directory {root : FileTree} {dir : Location} {name : Text}
    (hdir : root.entryAt? dir = some .directory)
    (hfree : root.entryAt? (dir ++ [name]) ≠ some .directory) :
    Writable root (dir ++ [name]) where
  free := hfree
  reached k hk hne := by
    rcases List.prefix_concat_iff.mp hk with rfl | hk
    · exact absurd rfl hne
    · obtain ⟨rest, rfl⟩ := hk
      by_cases hrest : rest = []
      · rwa [hrest, List.append_nil] at hdir
      · apply entryAt?_of_append hrest
        rw [hdir]
        exact Option.some_ne_none _

theorem Writable.child {entries : List (Text × FileTree)} {name : Text} {l : Location}
    (h : Writable (.directory entries) (name :: l)) {sub : FileTree}
    (hsub : entries.lookup name = some sub) : Writable sub l := by
  have hchild (k : Location) : (directory entries).entryAt? (name :: k) = sub.entryAt? k := by
    rw [entryAt?_cons, child?, hsub, Option.bind_some]
  constructor
  · rw [← hchild]
    exact h.free
  · intro k hk hne
    rw [← hchild]
    apply h.reached
    · exact List.cons_prefix_cons.mpr ⟨rfl, hk⟩
    · simpa using hne

theorem Writable.eq_nil_of_new {entries : List (Text × FileTree)} {name : Text} {l : Location}
    (h : Writable (.directory entries) (name :: l)) (hnew : entries.lookup name = none) :
    l = [] := by
  cases l with
  | nil => rfl
  | cons next l =>
      have hdirectory := h.reached [name] (by simp) (by simp)
      rw [entryAt?_cons, child?, hnew] at hdirectory
      cases hdirectory

theorem entryAt?_put_cons (entries : List (Text × FileTree)) (name other : Text) (l k : Location)
    (new : FileTree) :
    (put (.directory entries) (name :: l) new).entryAt? (other :: k) =
      if other = name then (put ((entries.lookup name).getD empty) l new).entryAt? k
      else (directory entries).entryAt? (other :: k) := by
  rw [entryAt?_cons, entryAt?_cons, put, child?, child?, lookup_putEntry]
  split
  · rfl
  · rfl

/-- Writing a file changes the entry at its location and no other. -/
theorem entryAt?_put_file {root : FileTree} {l : Location} (h : Writable root l) (content : Bytes)
    (k : Location) :
    (root.put l (.file content)).entryAt? k =
      if k = l then some (.file content) else root.entryAt? k := by
  induction l generalizing root k with
  | nil =>
      cases root with
      | directory entries => exact absurd (entryAt?_nil _) h.free
      | file old =>
          cases k with
          | nil => rfl
          | cons name k => rfl
  | cons name l ih =>
      have hroot := h.reached [] List.nil_prefix (List.cons_ne_nil name l).symm
      cases root with
      | file old => cases hroot
      | directory entries =>
          cases k with
          | nil => rfl
          | cons other k =>
              rw [entryAt?_put_cons]
              by_cases hother : other = name
              · subst hother
                rw [if_pos rfl, entryAt?_cons, child?]
                cases hsub : entries.lookup other with
                | some sub =>
                    rw [Option.getD_some, ih (h.child hsub)]
                    simp
                | none =>
                    obtain rfl := h.eq_nil_of_new hsub
                    cases k with
                    | nil => rw [if_pos rfl]; rfl
                    | cons next k => rw [if_neg (by simp)]; rfl
              · rw [if_neg hother, if_neg (by simp [hother])]

/-- Writing a file makes and removes no directory. -/
theorem entryAt?_put_file_eq_directory_iff {root : FileTree} {l : Location} (h : Writable root l)
    (content : Bytes) (k : Location) :
    (root.put l (.file content)).entryAt? k = some .directory ↔
      root.entryAt? k = some .directory := by
  rw [entryAt?_put_file h]
  split
  · next hk =>
      rw [hk]
      simp [h.free]
  · exact Iff.rfl

end FileTree

end Tidymark
