import Mathlib.Data.List.TakeWhile
import ShellPipeline.Proofs.Outcomes
import ShellPipeline.Proofs.PathSpelling
import ShellPipeline.Settings

/-!
# Names that can be looked up

The way to the directory of the journal is looked up name by name. A name can be looked up if each
of its points can stand in the name of a file (`Point.isNameable`): it is a character other than the
null character, or one of the halves that stand for single bytes. What is in front of a name, and
how long it is, only shows in the wording of a fault.

So whether a text can be placed below a base directory can be seen from the text alone: it is
absolute, or each of its points is nameable (`exists_logsDirOf_eq_ok_iff`). It does not matter for
this whether the text is whole.

* `nameFault?_eq_none_iff`, `lookUpFault?_eq_none_iff` — names one by one;
* `Wording.forall_mem_names_iff` — the points of the names are those of the text;
* `Wording.CanBePlaced` — the texts that can be placed.
-/

namespace ShellPipeline

open Document (Point Wording)

/-! ### Names one by one -/

/-- **A name can be looked up** if each of its points can stand in a name. -/
theorem nameFault?_eq_none_iff {start : Nat} {name : Wording} :
    nameFault? start name = none ↔ ∀ p ∈ name, p.isNameable = true := by
  rw [nameFault?]
  cases hrest : name.dropWhile Point.isEncodable with
  | nil =>
    -- all points are encodable, so only the null character can be in the way
    have hall : ∀ p ∈ name, p.isEncodable = true := List.dropWhile_eq_nil_iff.mp hrest
    have hnull : (∀ p ∈ name, p.isNameable = true) ↔ .char '\x00' ∉ name := by
      constructor
      · intro h hmem
        exact absurd (h _ hmem) (by decide)
      · intro h p hp
        have hne : p ≠ .char '\x00' := fun heq => h (heq ▸ hp)
        simp [Point.isNameable, hall p hp, hne]
    rw [hnull]
    simp [Wording.halves]
  | cons p rest =>
    have hp : p.isEncodable = false := by
      simpa [hrest] using List.head_dropWhile_not (l := name) Point.isEncodable (by simp [hrest])
    have hmem : p ∈ name := by
      have hsub := List.dropWhile_sublist (l := name) Point.isEncodable
      rw [hrest] at hsub
      exact hsub.subset List.mem_cons_self
    cases p with
    | char c => cases hp
    | half offset =>
      -- the first point that is not encodable is a half
      refine iff_of_false (by simp [Wording.halves]) fun h => ?_
      simpa [Point.isNameable, hp] using h _ hmem

theorem lookUpFault?_eq_none_iff {lengths : List Nat} {names : List Wording} :
    lookUpFault? lengths names = none ↔ ∀ name ∈ names, ∀ p ∈ name, p.isNameable = true := by
  induction names generalizing lengths with
  | nil => simp [lookUpFault?]
  | cons name rest ih =>
    rw [lookUpFault?, List.forall_mem_cons]
    split
    · next hdots =>
      -- a pair of dots is not looked up, but it could be
      subst hdots
      rw [ih]
      refine ⟨fun h => ⟨by decide, h⟩, fun h => h.2⟩
    · rw [Option.or_eq_none_iff, nameFault?_eq_none_iff, ih]

/-! ### Texts -/

namespace Document.Wording

/-- The points of the names of a text are its points, but for slashes and single dots, which can be
looked up. -/
theorem forall_mem_names_iff {w : Wording} :
    (∀ name ∈ w.names, ∀ p ∈ name, p.isNameable = true) ↔ ∀ p ∈ w, p.isNameable = true := by
  constructor
  · intro h p hp
    by_cases hslash : p = .char '/'
    · rw [hslash]
      decide
    · obtain ⟨piece, hpiece, hmem⟩ := (mem_splitOn_iff hslash).mpr hp
      by_cases hdot : piece = ofString "."
      · rw [hdot] at hmem
        rw [List.mem_singleton.mp (show p ∈ [Point.char '.'] from hmem)]
        decide
      · have hname : piece ∈ w.names :=
          List.mem_filter.mpr ⟨hpiece, decide_eq_true ⟨List.ne_nil_of_mem hmem, hdot⟩⟩
        exact h piece hname p hmem
  · intro h name hname p hp
    apply h
    have hjoined : [Point.char '/'].intercalate (w.splitOn (.char '/')) = w :=
      List.intercalate_splitOn _
    rw [← hjoined]
    exact mem_intercalate_of_mem (List.mem_of_mem_filter hname) hp

/-- A string can be looked up if there is no null character in it. -/
theorem forall_isNameable_ofString_iff {s : String} :
    (∀ p ∈ ofString s, p.isNameable = true) ↔ '\x00' ∉ s.toList := by
  simp only [ofString, ofChars, List.mem_map, forall_exists_index, and_imp,
    forall_apply_eq_imp_iff₂, Point.isNameable, Point.isEncodable]
  constructor
  · intro h hnull
    simpa using h _ hnull
  · intro h c hc
    have hne : c ≠ '\x00' := fun heq => h (heq ▸ hc)
    simp [hne]

theorem head?_ofString_eq_slash_iff {s : String} :
    (ofString s).head? = some (.char '/') ↔ (Path.ofString s).isAbsolute = true := by
  rw [Path.isAbsolute_ofString_iff, ofString, ofChars, List.head?_map, Option.map_eq_some_iff]
  simp

/-- **A text that can be placed** below a base directory: it is absolute, or it can be looked up
from there on. -/
def CanBePlaced (base : Path) (w : Wording) : Prop :=
  w.head? = some (.char '/') ∨ base.hasNull = false ∧ ∀ p ∈ w, p.isNameable = true

end Document.Wording

theorem hasNull_join_ofString {base : Path} {s : String}
    (hs : (Path.ofString s).isAbsolute = false) :
    (base.join (.ofString s)).hasNull = false ↔ base.hasNull = false ∧ '\x00' ∉ s.toList := by
  rw [← Path.hasNull_ofString_iff, Bool.not_eq_true, Path.join, hs]
  simp only [Bool.false_eq_true, if_false, Path.hasNull, List.any_append, Bool.or_eq_false_iff]

theorem tornFault?_eq_none_iff {base : Path} {w : Wording} :
    tornFault? base w = none ↔ w.CanBePlaced base := by
  rw [tornFault?, Wording.CanBePlaced]
  split
  · next hslash => simp [hslash]
  · next hslash =>
    cases base.hasNull <;>
      simp [hslash, lookUpFault?_eq_none_iff, Wording.forall_mem_names_iff]

/-- A string is placed below the base directory as it is. -/
theorem logsDirOf_ofString (base : Path) (s : String) :
    logsDirOf base (some (.ofString s)) = (placeBelow base (.ofString s)).map some := by
  have hwhole : (Wording.ofString s).IsWhole := Wording.isWhole_ofChars s.toList
  rw [logsDirOf, if_pos hwhole, Wording.string_ofString]

/-- The directory is a path where the text that names it is whole. -/
theorem isSome_iff_of_logsDirOf {base : Path} {w : Wording} {place? : Option Path}
    (h : logsDirOf base (some w) = .ok place?) : place?.isSome = true ↔ w.IsWhole := by
  by_cases hwhole : w.IsWhole
  · rw [logsDirOf, if_pos hwhole] at h
    obtain ⟨place, -, rfl⟩ := map_eq_ok_iff.mp h
    exact iff_of_true rfl hwhole
  · rw [logsDirOf, if_neg hwhole] at h
    split at h
    · cases h
    · cases h
      exact iff_of_false Bool.false_ne_true hwhole

/-- **The directory of the journal** can be made of a text that can be placed, and of no other. -/
theorem exists_logsDirOf_eq_ok_iff {base : Path} {w : Wording} :
    (∃ place?, logsDirOf base (some w) = .ok place?) ↔ w.CanBePlaced base := by
  by_cases hwhole : w.IsWhole
  · obtain ⟨s, rfl⟩ : ∃ s, w = .ofString s := ⟨w.string, (Wording.ofString_string hwhole).symm⟩
    rw [Wording.CanBePlaced, Wording.head?_ofString_eq_slash_iff,
      Wording.forall_isNameable_ofString_iff]
    simp only [logsDirOf_ofString, placeBelow]
    cases habsolute : (Path.ofString s).isAbsolute with
    | true => simp [Except.map]
    | false =>
      rw [← hasNull_join_ofString habsolute]
      cases (base.join (.ofString s)).hasNull <;> simp [Except.map]
  · rw [← tornFault?_eq_none_iff, logsDirOf, if_neg hwhole]
    cases tornFault? base w <;> simp

end ShellPipeline
