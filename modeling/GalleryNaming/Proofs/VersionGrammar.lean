import GalleryNaming.Resource
import GalleryNaming.Proofs.PatternMeaning

/-!
# Which versions are accepted

The grammar of versions splits a name at every dot and looks at the pieces.
The rule searches for a pattern instead.  Both describe the same names, for
components of any length: a match of the pattern has to begin at the start of
the text and to end at its end, so it spells the whole name as components with
dots between them, and components contain no dot themselves.
-/

namespace GalleryNaming.VersionRule

open Text
open Text.Pattern

/-- The digits of ASCII and no others. -/
def IsDigit (c : Char) : Prop :=
  '0' ≤ c ∧ c ≤ '9'

theorem isDigit_iff (c : Char) : c.isDigit = true ↔ IsDigit c := by
  simp [IsDigit, Char.isDigit, Char.le_def]

instance (c : Char) : Decidable (IsDigit c) :=
  decidable_of_iff (c.isDigit = true) (isDigit_iff c)

theorem not_isDigit_dot : ¬ IsDigit '.' := by
  decide

def IsComponent (piece : List Char) : Prop :=
  piece ≠ [] ∧ ∀ c ∈ piece, IsDigit c

instance (piece : List Char) : Decidable (IsComponent piece) :=
  decidable_of_iff ((!piece.isEmpty && piece.all Char.isDigit) = true)
    (by simp [IsComponent, isDigit_iff])

/-- Between its dots, the name has as many components as a version has. -/
def IsVersion (value : String) : Prop :=
  (value.toList.splitOn '.').length = componentCount ∧
    ∀ piece ∈ value.toList.splitOn '.', IsComponent piece

instance (value : String) : Decidable (IsVersion value) :=
  inferInstanceAs (Decidable ((value.toList.splitOn '.').length = componentCount ∧
    ∀ piece ∈ value.toList.splitOn '.', IsComponent piece))

theorem IsComponent.dot_not_mem {piece : List Char} (hpiece : IsComponent piece) :
    '.' ∉ piece := by
  intro hdot
  exact not_isDigit_dot (hpiece.2 '.' hdot)

theorem matches_component_iff (before matched after : List Char) :
    Matches component before matched after ↔ IsComponent matched := by
  constructor
  · intro hmatches
    cases hmatches with
    | run _ _ hne haccepts =>
        exact ⟨hne, fun c hc => (isDigit_iff c).mp (haccepts c hc)⟩
  · rintro ⟨hne, hdigits⟩
    exact .run before after hne fun c hc => (isDigit_iff c).mpr (hdigits c hc)

theorem matches_dotted_iff (before matched after : List Char) :
    Matches (.andThen dot component) before matched after ↔
      ∃ piece, IsComponent piece ∧ matched = '.' :: piece := by
  constructor
  · intro hmatches
    cases hmatches with
    | @andThen _ _ _ left right _ hdot hpiece =>
        cases hdot with
        | @char _ c _ _ hc =>
            have hdotted : c = '.' := by simpa using hc
            rw [hdotted]
            exact ⟨right, (matches_component_iff _ _ _).mp hpiece, rfl⟩
  · rintro ⟨piece, hpiece, rfl⟩
    rw [← List.singleton_append]
    exact .andThen (.char _ _ (by decide)) ((matches_component_iff _ _ _).mpr hpiece)

theorem matches_times_dotted_iff (count : Nat) (before matched after : List Char) :
    Matches (.times count (.andThen dot component)) before matched after ↔
      ∃ pieces : List (List Char), pieces.length = count ∧
        (∀ piece ∈ pieces, IsComponent piece) ∧
        matched = pieces.flatMap fun piece => '.' :: piece := by
  induction count generalizing before matched with
  | zero =>
      constructor
      · intro hmatches
        cases hmatches
        exact ⟨[], rfl, by simp, rfl⟩
      · rintro ⟨pieces, hlength, _, rfl⟩
        rw [List.length_eq_zero_iff.mp hlength]
        exact .timesZero before after
  | succ count ih =>
      constructor
      · intro hmatches
        cases hmatches with
        | timesSucc hitem htimes =>
            obtain ⟨piece, hpiece, rfl⟩ := (matches_dotted_iff _ _ _).mp hitem
            obtain ⟨pieces, hlength, hpieces, rfl⟩ := (ih _ _).mp htimes
            refine ⟨piece :: pieces, by simp [hlength], ?_, by simp⟩
            simpa [hpiece] using hpieces
      · rintro ⟨pieces, hlength, hpieces, rfl⟩
        cases pieces with
        | nil => cases hlength
        | cons piece pieces =>
            rw [List.flatMap_cons]
            apply Matches.timesSucc
            · exact (matches_dotted_iff _ _ _).mpr
                ⟨piece, hpieces piece List.mem_cons_self, rfl⟩
            · refine (ih _ _).mpr ⟨pieces, by simpa using hlength, ?_, rfl⟩
              intro other hother
              exact hpieces other (List.mem_cons_of_mem _ hother)

theorem intercalate_dot_cons (piece : List Char) (pieces : List (List Char)) :
    ['.'].intercalate (piece :: pieces) =
      piece ++ pieces.flatMap fun other => '.' :: other := by
  induction pieces generalizing piece with
  | nil => simp
  | cons next pieces ih =>
      rw [List.intercalate_cons_cons, ih]
      simp

/-- The anchors tie a match to the whole text. -/
theorem matches_pattern_iff (before matched after : List Char) :
    Matches pattern before matched after ↔
      before = [] ∧ after = [] ∧
        ∃ pieces : List (List Char), pieces.length = componentCount ∧
          (∀ piece ∈ pieces, IsComponent piece) ∧
          matched = ['.'].intercalate pieces := by
  constructor
  · intro hmatches
    cases hmatches with
    | andThen hstart hmatches =>
        cases hstart
        cases hmatches with
        | @andThen _ _ _ first _ _ hfirst hmatches =>
            cases hmatches with
            | andThen htimes hend =>
                cases hend
                have hpiece := (matches_component_iff _ _ _).mp hfirst
                obtain ⟨pieces, hlength, hpieces, rfl⟩ :=
                  (matches_times_dotted_iff _ _ _ _).mp htimes
                refine ⟨rfl, rfl, first :: pieces, ?_, ?_, ?_⟩
                · rw [List.length_cons, hlength]
                  rfl
                · simpa [hpiece] using hpieces
                · rw [intercalate_dot_cons]
                  simp
  · rintro ⟨rfl, rfl, pieces, hlength, hpieces, rfl⟩
    cases pieces with
    | nil => cases hlength
    | cons first pieces =>
        have hfirst := hpieces first List.mem_cons_self
        have htimes := (matches_times_dotted_iff (componentCount - 1) ([] ++ first)
          (pieces.flatMap fun piece => '.' :: piece) ([] ++ [])).mpr
            ⟨pieces, by rw [← hlength]; rfl,
              fun piece hpiece => hpieces piece (List.mem_cons_of_mem _ hpiece), rfl⟩
        have hrest := Matches.andThen htimes (.textEnd _)
        have hbody := Matches.andThen ((matches_component_iff _ _ _).mpr hfirst) hrest
        have hwhole := Matches.andThen (.textStart _) hbody
        rw [intercalate_dot_cons]
        simpa [pattern] using hwhole

theorem isVersion_iff_intercalate (value : String) :
    IsVersion value ↔
      ∃ pieces : List (List Char), pieces.length = componentCount ∧
        (∀ piece ∈ pieces, IsComponent piece) ∧
        value.toList = ['.'].intercalate pieces := by
  constructor
  · rintro ⟨hlength, hpieces⟩
    exact ⟨_, hlength, hpieces, (List.intercalate_splitOn '.').symm⟩
  · rintro ⟨pieces, hlength, hpieces, hvalue⟩
    have hne : pieces ≠ [] := by
      rintro rfl
      cases hlength
    have hsplit : value.toList.splitOn '.' = pieces := by
      rw [hvalue]
      exact List.splitOn_intercalate '.' (fun piece hpiece => (hpieces piece hpiece).dot_not_mem)
        hne
    rw [IsVersion, hsplit]
    exact ⟨hlength, hpieces⟩

theorem occursIn_pattern_iff (value : String) :
    pattern.occursIn value.toList = true ↔ IsVersion value := by
  rw [occursIn_eq_true_iff, isVersion_iff_intercalate]
  constructor
  · rintro ⟨before, matched, after, hvalue, hmatches⟩
    obtain ⟨rfl, rfl, pieces, hlength, hpieces, rfl⟩ :=
      (matches_pattern_iff _ _ _).mp hmatches
    exact ⟨pieces, hlength, hpieces, by simpa using hvalue⟩
  · rintro ⟨pieces, hlength, hpieces, hvalue⟩
    refine ⟨[], _, [], ?_, (matches_pattern_iff _ _ _).mpr
      ⟨rfl, rfl, pieces, hlength, hpieces, rfl⟩⟩
    simpa using hvalue

theorem not_isVersion_empty : ¬ IsVersion "" := by
  rintro ⟨hlength, _⟩
  cases hlength

theorem violations_eq (label value : String) :
    violations label value =
      if value = "" then [.emptyValue label]
      else if IsVersion value then []
      else [.malformedVersionFormat label value] := by
  simp only [violations, occursIn_pattern_iff]

theorem violations_eq_nil_iff (label value : String) :
    violations label value = [] ↔ IsVersion value := by
  rw [violations_eq]
  by_cases hempty : value = ""
  · rw [if_pos hempty, hempty]
    exact iff_of_false (List.cons_ne_nil _ _) not_isVersion_empty
  · by_cases hversion : IsVersion value
    · rw [if_neg hempty, if_pos hversion]
      exact iff_of_true rfl hversion
    · rw [if_neg hempty, if_neg hversion]
      exact iff_of_false (List.cons_ne_nil _ _) hversion

/-- Checking the name of an image version accepts the grammar and tells the
empty name from every other one outside it. -/
theorem checkImageVersionName_violations_iff
    (value label : String) (log : List Log.Entry) :
    let violations := ((checkImageVersionName value label).run log).1.violations
    (violations = [] ↔ IsVersion value) ∧
    (violations = [.emptyValue label] ↔ value = "") ∧
    (violations = [.malformedVersionFormat label value] ↔
      value ≠ "" ∧ ¬ IsVersion value) := by
  have hviolations : ((checkImageVersionName value label).run log).1.violations =
      violations label value := rfl
  rw [hviolations, violations_eq]
  by_cases hempty : value = ""
  · subst hempty
    simp [not_isVersion_empty]
  · by_cases hversion : IsVersion value
    · simp [hempty, hversion]
    · simp [hempty, hversion]

end GalleryNaming.VersionRule
