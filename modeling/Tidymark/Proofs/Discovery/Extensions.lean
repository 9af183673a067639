import Tidymark.Discovery
import Tidymark.Proofs.Text.LetterCase

/-!
# Extensions

A file is formatted if its name has one of the given extensions.  Names and
extensions are compared in lower case, which is to compare them up to letter
case as long as no sigma is among the letters.
-/

namespace Tidymark

namespace Path

/-- What stands behind the last dot of a name, which is not the dot that starts it. -/
def HasExtension (name extension : Text) : Prop :=
  ∃ stem, stem ≠ [] ∧ name = stem ++ '.' :: extension ∧ '.' ∉ extension

theorem splitLastDot?_eq_none_iff {s : Text} : splitLastDot? s = none ↔ '.' ∉ s := by
  induction s with
  | nil => simp [splitLastDot?]
  | cons c s ih =>
      rw [splitLastDot?, List.mem_cons, not_or, ← ih]
      cases hs : splitLastDot? s with
      | some parts => simp
      | none =>
          by_cases hc : c = '.'
          · simp [hc]
          · simp [hc, Ne.symm hc]

theorem splitLastDot?_append {behind : Text} (hbehind : '.' ∉ behind) (before : Text) :
    splitLastDot? (before ++ '.' :: behind) = some (before, behind) := by
  induction before with
  | nil =>
      rw [List.nil_append, splitLastDot?, splitLastDot?_eq_none_iff.mpr hbehind]
      exact if_pos rfl
  | cons c before ih => rw [List.cons_append, splitLastDot?, ih]

theorem eq_append_of_splitLastDot? {s before behind : Text}
    (h : splitLastDot? s = some (before, behind)) : s = before ++ '.' :: behind ∧ '.' ∉ behind := by
  induction s generalizing before with
  | nil => cases h
  | cons c s ih =>
      rw [splitLastDot?] at h
      cases hs : splitLastDot? s with
      | some parts =>
          rw [hs] at h
          obtain ⟨rfl, rfl⟩ := h
          exact (ih hs).imp_left (congrArg _)
      | none =>
          rw [hs] at h
          dsimp only at h
          split at h
          · next hc =>
              obtain ⟨rfl, rfl⟩ := h
              exact ⟨by rw [hc, List.nil_append], splitLastDot?_eq_none_iff.mp hs⟩
          · cases h

theorem nameExtension?_eq_some_iff {name extension : Text} :
    nameExtension? name = some extension ↔ HasExtension name extension := by
  constructor
  · intro h
    rw [nameExtension?] at h
    split at h
    · next c before behind hsplit =>
        cases h
        exact ⟨c :: before, List.cons_ne_nil _ _, eq_append_of_splitLastDot? hsplit⟩
    · cases h
  · rintro ⟨stem, hstem, rfl, hextension⟩
    obtain ⟨c, rest, rfl⟩ := List.exists_cons_of_ne_nil hstem
    rw [nameExtension?, splitLastDot?_append hextension]

end Path

namespace Discovery

open Tidymark.Path

/-- The name of what stands at a location has one of the extensions, as far as the key tells. -/
def AllowedUpTo (key : Text → Text) (extensions : List Text) (l : Location) : Prop :=
  ∃ name extension, l.getLast? = some name ∧ HasExtension name extension ∧
    ∃ e ∈ extensions, key e = key ('.' :: extension)

theorem isAllowed_iff {extensions : List Text} {path : Text} {l : Location}
    (hname : fileName? path = l.getLast?) :
    isAllowed extensions path = true ↔ AllowedUpTo Text.lower extensions l := by
  rw [isAllowed, extension?, hname, AllowedUpTo]
  cases l.getLast? with
  | none => simp
  | some name =>
      rw [Option.bind_some]
      constructor
      · intro h
        split at h
        · next extension hextension =>
            rw [List.any_eq_true] at h
            obtain ⟨e, he, hlower⟩ := h
            refine ⟨name, extension, rfl, nameExtension?_eq_some_iff.mp hextension, e, he, ?_⟩
            rw [Text.lower_dot_cons]
            exact eq_of_beq hlower
        · cases h
      · rintro ⟨_, extension, ⟨rfl⟩, hextension, e, he, hlower⟩
        rw [nameExtension?_eq_some_iff.mpr hextension]
        rw [Text.lower_dot_cons] at hlower
        exact List.any_eq_true.mpr ⟨e, he, beq_iff_eq.mpr hlower⟩

theorem AllowedUpTo.imp {key key' : Text → Text} {extensions : List Text} {l : Location}
    (hkey : ∀ e ∈ extensions, ∀ s, key e = key s → key' e = key' s)
    (h : AllowedUpTo key extensions l) : AllowedUpTo key' extensions l := by
  obtain ⟨name, extension, hlast, hextension, e, he, heq⟩ := h
  exact ⟨name, extension, hlast, hextension, e, he, hkey e he _ heq⟩

theorem AllowedUpTo.caseless {extensions : List Text} {l : Location}
    (h : AllowedUpTo Text.lower extensions l) : AllowedUpTo Text.caseless extensions l :=
  h.imp fun _ _ _ => Text.caseless_eq_of_lower_eq

theorem allowedUpTo_lower_iff {extensions : List Text} {l : Location}
    (hsigma : ∀ e ∈ extensions, '\u03C3' ∉ Text.caseless e) :
    AllowedUpTo Text.lower extensions l ↔ AllowedUpTo Text.caseless extensions l := by
  constructor
  · exact AllowedUpTo.caseless
  · exact AllowedUpTo.imp fun e he _ => (Text.lower_eq_lower_iff (hsigma e he)).mpr

end Discovery

end Tidymark
