import Mathlib.Data.List.TakeWhile
import RecordBinding.Proofs.Object.Agreement
import RecordBinding.Registrations.Reference

namespace RecordBinding

section Split

variable {module path : List Char}

theorem splitReference?_append (h : ':' ∉ module) (path : List Char) :
    splitReference? (module ++ ':' :: path) = some (module, path) := by
  have hall : ∀ c ∈ module, decide (c ≠ ':') = true :=
    fun c hc => decide_eq_true fun heq => h (heq ▸ hc)
  unfold splitReference?
  rw [List.dropWhile_append_of_pos hall, List.takeWhile_append_of_pos hall]
  simp

theorem splitReference?_eq_some {cs : List Char} (h : splitReference? cs = some (module, path)) :
    cs = module ++ ':' :: path ∧ ':' ∉ module := by
  unfold splitReference? at h
  split at h
  · next c name hdrop =>
      cases h
      have hhead := List.head?_dropWhile_not (fun c => decide (c ≠ ':')) cs
      rw [hdrop] at hhead
      have hc : c = ':' := by simpa using hhead
      refine ⟨?_, fun hmem => by simpa using List.mem_takeWhile_imp hmem⟩
      subst hc
      rw [← hdrop]
      exact List.takeWhile_append_dropWhile.symm
  · cases h

theorem trimChars_append (hmodule : module.dropWhile Text.isBlank ≠ [])
    (hpath : path.reverse.dropWhile Text.isBlank ≠ []) :
    Text.trimChars (module ++ ':' :: path) =
      module.dropWhile Text.isBlank ++ ':' :: (path.reverse.dropWhile Text.isBlank).reverse := by
  unfold Text.trimChars
  rw [List.dropWhile_append, if_neg (by simpa using hmodule), List.reverse_append,
    List.reverse_cons, List.append_assoc, List.dropWhile_append, if_neg (by simpa using hpath)]
  simp

end Split

/-- A text with a colon, and more than blanks on both sides of the first one. -/
def IsReferenceText (given : String) : Prop :=
  ∃ module path : List Char, given.toList = module ++ ':' :: path ∧ ':' ∉ module ∧
    (∃ c ∈ module, Text.isBlank c = false) ∧ ∃ c ∈ path, Text.isBlank c = false

theorem isReference_iff (given : String) :
    isReference given.toList = true ↔ IsReferenceText given := by
  constructor
  · intro h
    unfold isReference at h
    split at h
    · next module path hsplit =>
        obtain ⟨hgiven, hcolon⟩ := splitReference?_eq_some hsplit
        refine ⟨module, path, hgiven, hcolon, ?_⟩
        simpa using h
    · cases h
  · rintro ⟨module, path, hgiven, hcolon, hmodule, hpath⟩
    rw [isReference, hgiven, splitReference?_append hcolon]
    simpa using And.intro hmodule hpath

theorem exists_dropWhile_isBlank {cs : List Char} (h : ∃ c ∈ cs, Text.isBlank c = false) :
    ∃ c rest, cs.dropWhile Text.isBlank = c :: rest ∧ Text.isBlank c = false := by
  cases hdrop : cs.dropWhile Text.isBlank with
  | nil =>
      rw [List.dropWhile_eq_nil_iff] at hdrop
      obtain ⟨c, hc, hblank⟩ := h
      rw [hdrop c hc] at hblank
      cases hblank
  | cons c rest =>
      have hhead := List.head?_dropWhile_not Text.isBlank cs
      rw [hdrop] at hhead
      exact ⟨c, rest, rfl, by simpa using hhead⟩

theorem IsReferenceText.trim {given : String} (h : IsReferenceText given) :
    IsReferenceText (Text.trim given) ∧ Text.trim (Text.trim given) = Text.trim given := by
  obtain ⟨module, path, hgiven, hcolon, hmodule, hpath⟩ := h
  obtain ⟨first, behind, hfirst, hfirstBlank⟩ := exists_dropWhile_isBlank hmodule
  obtain ⟨last, before, hlast, hlastBlank⟩ : ∃ c rest, path.reverse.dropWhile Text.isBlank = c :: rest ∧
      Text.isBlank c = false := exists_dropWhile_isBlank (by simpa using hpath)
  have hcut : (Text.trim given).toList = (first :: behind) ++ ':' :: (last :: before).reverse := by
    rw [Text.trim, String.toList_ofList, hgiven,
      trimChars_append (by simp [hfirst]) (by simp [hlast]), hfirst, hlast]
  constructor
  · refine ⟨first :: behind, (last :: before).reverse, hcut, ?_, ⟨first, by simp, hfirstBlank⟩,
      ⟨last, by simp, hlastBlank⟩⟩
    rw [← hfirst]
    exact fun hmem => hcolon ((List.dropWhile_sublist _).mem hmem)
  · have hfirst' : (first :: behind).dropWhile Text.isBlank = first :: behind :=
      List.dropWhile_cons_of_neg (by simp [hfirstBlank])
    have hlast' : (last :: before).dropWhile Text.isBlank = last :: before :=
      List.dropWhile_cons_of_neg (by simp [hlastBlank])
    rw [Text.trim, hcut, trimChars_append (by simp [hfirst']) (by simp [hlast']), hfirst',
      List.reverse_reverse, hlast', ← hcut, String.ofList_toList]

namespace Universe

/-- A reference cannot be followed to its end for a reason that is none of the configuration: the module is
named relative to another one, or an attribute on the way is there and raises something else than that it is
missing. -/
inductive ReferenceFails (u : Universe) (reference : String) (w : World) : Failure → Prop
  | relative (hrelative : reference.toList.head? = some '.') :
      ReferenceFails u reference w (.misuse .typeError)
  | raised {module path : List Char} {failure : Failure}
      (hsplit : splitReference? reference.toList = some (module, path))
      (hmodule : u.requireModule (String.ofList module) = .ok ())
      (hraised : ((u.objectAt (String.ofList module) ((path.splitOn '.').map String.ofList)).run w).1 =
        .error failure)
      (hattribute : failure.kind.isAttribute = false)
      (hkind : failure.kind.isConfiguration = false) : ReferenceFails u reference w failure

variable {u : Universe} {reference : String} {failure : Failure}

theorem ReferenceFails.not_configuration {w : World} (h : u.ReferenceFails reference w failure) :
    failure.kind.isConfiguration = false := by
  cases h with
  | relative => rfl
  | raised _ _ _ _ hkind => exact hkind

end Universe

end RecordBinding
