import GalleryNaming.Resource
import GalleryNaming.Proofs.TextReading
import Mathlib.Data.List.TakeWhile

/-!
# What is reported on a name

The two rules for names of galleries and images look at the length and at the
characters of a name independently, and only the empty name is treated apart.
Here a report is compared with what holds of the name itself: how many
characters it has, and which of them is the first that its resource does not
allow.  Every violation in a report holds of the name, and every violation that
holds of the name is in the report.
-/

namespace GalleryNaming

namespace Alphabet

/-- The characters that names are made of. -/
def Contains (alphabet : Alphabet) (c : Char) : Prop :=
  ('a' ≤ c ∧ c ≤ 'z') ∨ ('A' ≤ c ∧ c ≤ 'Z') ∨ ('0' ≤ c ∧ c ≤ '9') ∨
    c = '.' ∨ c = '_' ∨ (alphabet = .image ∧ c = '-')

/-- The text splits at a character outside the alphabet, and none of the
characters before it is outside. -/
def FirstOutside (alphabet : Alphabet) (cs : List Char) (c : Char) (position : Nat) :
    Prop :=
  ∃ before after, cs = before ++ c :: after ∧ before.length = position ∧
    (∀ d ∈ before, alphabet.Contains d) ∧ ¬ alphabet.Contains c

theorem allows_eq_true_iff (alphabet : Alphabet) (c : Char) :
    alphabet.allows c = true ↔ alphabet.Contains c := by
  simp only [allows, Contains, Char.isAlphanum, Text.isAlpha_iff, Char.isDigit,
    Char.le_def, Bool.or_eq_true, Bool.and_eq_true, decide_eq_true_eq, ge_iff_le]
  constructor
  · rintro (((((hlower | hupper) | hdigit) | hdot) | hunderscore) | ⟨hhyphen, himage⟩)
    · exact .inl hlower
    · exact .inr (.inl hupper)
    · exact .inr (.inr (.inl hdigit))
    · exact .inr (.inr (.inr (.inl hdot)))
    · exact .inr (.inr (.inr (.inr (.inl hunderscore))))
    · exact .inr (.inr (.inr (.inr (.inr ⟨himage, hhyphen⟩))))
  · rintro (hlower | hupper | hdigit | hdot | hunderscore | ⟨himage, hhyphen⟩)
    · exact .inl (.inl (.inl (.inl (.inl hlower))))
    · exact .inl (.inl (.inl (.inl (.inr hupper))))
    · exact .inl (.inl (.inl (.inr hdigit)))
    · exact .inl (.inl (.inr hdot))
    · exact .inl (.inr hunderscore)
    · exact .inr ⟨hhyphen, himage⟩

theorem firstOutside_eq_none_iff (alphabet : Alphabet) (cs : List Char) :
    alphabet.firstOutside cs = none ↔ ∀ c ∈ cs, alphabet.Contains c := by
  rw [firstOutside, Option.map_eq_none_iff, List.head?_eq_none_iff,
    List.dropWhile_eq_nil_iff]
  simp only [allows_eq_true_iff]

theorem firstOutside_eq_some_iff
    (alphabet : Alphabet) (cs : List Char) (c : Char) (position : Nat) :
    alphabet.firstOutside cs = some (c, position) ↔
      alphabet.FirstOutside cs c position := by
  simp only [firstOutside, FirstOutside, ← allows_eq_true_iff]
  constructor
  · intro hsome
    obtain ⟨d, hhead, heq⟩ := Option.map_eq_some_iff.mp hsome
    cases heq
    obtain ⟨after, hafter⟩ := List.head?_eq_some_iff.mp hhead
    have hsplit := List.takeWhile_append_dropWhile (p := alphabet.allows) (l := cs)
    have hstop := List.head?_dropWhile_not alphabet.allows cs
    rw [hhead] at hstop
    rw [hafter] at hsplit
    refine ⟨_, after, hsplit.symm, rfl, ?_, by simpa using hstop⟩
    intro d hd
    exact List.mem_takeWhile_imp hd
  · rintro ⟨before, after, rfl, rfl, hbefore, hc⟩
    have hfalse := Bool.not_eq_true _ |>.mp hc
    rw [List.dropWhile_append_of_pos hbefore, List.takeWhile_append_of_pos hbefore]
    simp [hfalse]

def rule : Alphabet → NameRule
  | .gallery => NameRule.gallery
  | .image => NameRule.image

def checkName : Alphabet → String → String → Logged Report
  | .gallery => checkGalleryName
  | .image => checkImageName

end Alphabet

/-- What a violation says, told of the name it was reported on. -/
def Violation.HoldsOf (alphabet : Alphabet) (label value : String) :
    Violation → Prop
  | .emptyValue field => field = label ∧ value.length = 0
  | .tooLong field maximum actual =>
      field = label ∧ maximum = 79 ∧ actual = value.length ∧ 79 < value.length
  | .invalidCharacter field character position allowed =>
      field = label ∧ alphabet.FirstOutside value.toList character position ∧
        allowed = alphabet.description
  | .malformedVersionFormat _ _ => False

namespace NameRule

theorem violations_rule (alphabet : Alphabet) (label value : String) :
    alphabet.rule.violations label value =
      if value.length = 0 then [.emptyValue label]
      else
        lengthViolations label value.length ++
          characterViolations alphabet label value := by
  cases alphabet <;> simp [Alphabet.rule, violations, gallery, image, minimum]

theorem mem_lengthViolations_iff {label : String} {length : Nat} {violation : Violation} :
    violation ∈ lengthViolations label length ↔
      79 < length ∧ violation = .tooLong label 79 length := by
  unfold lengthViolations
  by_cases hlong : maximum < length
  · rw [if_pos hlong, List.mem_singleton]
    exact ⟨fun heq => ⟨hlong, heq⟩, fun h => h.2⟩
  · rw [if_neg hlong]
    simp only [List.not_mem_nil, false_iff, not_and]
    intro hlength
    exact absurd hlength hlong

theorem characterViolations_cases (alphabet : Alphabet) (label value : String) :
    (∃ c position, alphabet.FirstOutside value.toList c position ∧
      characterViolations alphabet label value =
        [.invalidCharacter label c position alphabet.description]) ∨
    ((∀ c ∈ value.toList, alphabet.Contains c) ∧
      characterViolations alphabet label value = []) := by
  unfold characterViolations
  cases hfirst : alphabet.firstOutside value.toList with
  | none => exact .inr ⟨(alphabet.firstOutside_eq_none_iff _).mp hfirst, rfl⟩
  | some found =>
      obtain ⟨c, position⟩ := found
      exact .inl ⟨c, position, (alphabet.firstOutside_eq_some_iff _ _ _).mp hfirst, rfl⟩

theorem mem_characterViolations_iff
    {alphabet : Alphabet} {label value : String} {violation : Violation} :
    violation ∈ characterViolations alphabet label value ↔
      ∃ c position, alphabet.FirstOutside value.toList c position ∧
        violation = .invalidCharacter label c position alphabet.description := by
  constructor
  · intro hmem
    rcases characterViolations_cases alphabet label value with
      ⟨c, position, hfirst, hviolations⟩ | ⟨_, hviolations⟩
    · rw [hviolations, List.mem_singleton] at hmem
      exact ⟨c, position, hfirst, hmem⟩
    · rw [hviolations] at hmem
      cases hmem
  · rintro ⟨c, position, hfirst, rfl⟩
    have hsome := (alphabet.firstOutside_eq_some_iff _ _ _).mpr hfirst
    simp [characterViolations, hsome]

theorem mem_violations_iff
    {alphabet : Alphabet} {label value : String} {violation : Violation} :
    violation ∈ alphabet.rule.violations label value ↔
      violation.HoldsOf alphabet label value := by
  rw [violations_rule]
  by_cases hempty : value.length = 0
  · have hchars : value.toList = [] := by
      simpa using hempty
    rw [if_pos hempty, List.mem_singleton]
    cases violation with
    | emptyValue field => simp [Violation.HoldsOf, hempty]
    | tooLong field maximum actual => simp [Violation.HoldsOf, hempty]
    | invalidCharacter field character position allowed =>
        simp [Violation.HoldsOf, Alphabet.FirstOutside, hchars]
    | malformedVersionFormat field echoed => simp [Violation.HoldsOf]
  · rw [if_neg hempty, List.mem_append, mem_lengthViolations_iff,
      mem_characterViolations_iff]
    cases violation with
    | emptyValue field => simp [Violation.HoldsOf, hempty]
    | tooLong field maximum actual =>
        simp only [Violation.HoldsOf, Violation.tooLong.injEq, reduceCtorEq, and_false,
          exists_false, or_false]
        constructor
        · rintro ⟨hlong, rfl, rfl, rfl⟩
          exact ⟨rfl, rfl, rfl, hlong⟩
        · rintro ⟨rfl, rfl, rfl, hlong⟩
          exact ⟨hlong, rfl, rfl, rfl⟩
    | invalidCharacter field character position allowed =>
        simp only [Violation.HoldsOf, Violation.invalidCharacter.injEq, reduceCtorEq,
          and_false, false_or]
        constructor
        · rintro ⟨c, index, hfirst, rfl, rfl, rfl, rfl⟩
          exact ⟨rfl, hfirst, rfl⟩
        · rintro ⟨rfl, hfirst, rfl⟩
          exact ⟨character, position, hfirst, rfl, rfl, rfl, rfl⟩
    | malformedVersionFormat field echoed => simp [Violation.HoldsOf]

theorem violations_rule_eq_nil_iff {alphabet : Alphabet} {label value : String} :
    alphabet.rule.violations label value = [] ↔
      1 ≤ value.length ∧ value.length ≤ 79 ∧
        ∀ c ∈ value.toList, alphabet.Contains c := by
  rw [violations_rule]
  by_cases hempty : value.length = 0
  · simp [hempty]
  · have hpos : 1 ≤ value.length := Nat.one_le_iff_ne_zero.mpr hempty
    have hlong : lengthViolations label value.length = [] ↔ value.length ≤ 79 := by
      unfold lengthViolations maximum
      by_cases hmaximum : 79 < value.length
      · rw [if_pos hmaximum]
        simp only [List.cons_ne_nil, false_iff]
        exact Nat.not_le_of_lt hmaximum
      · rw [if_neg hmaximum]
        simp only [true_iff]
        exact Nat.le_of_not_lt hmaximum
    have hcharacters : characterViolations alphabet label value = [] ↔
        ∀ c ∈ value.toList, alphabet.Contains c := by
      rw [← alphabet.firstOutside_eq_none_iff]
      unfold characterViolations
      cases alphabet.firstOutside value.toList <;> simp
    rw [if_neg hempty, List.append_eq_nil_iff, hlong, hcharacters]
    exact ⟨fun h => ⟨hpos, h⟩, fun h => h.2⟩

/-- The report on a name, exactly: the empty name alone, or the length and the
first character outside the alphabet, each exactly when it applies. -/
theorem checkName_report_exact
    (alphabet : Alphabet) (value label : String) (log : List Log.Entry) :
    let report := ((alphabet.checkName value label).run log).1
    (value.length = 0 → report.violations = [.emptyValue label]) ∧
    (value.length ≠ 0 → ∃ long outside, report.violations = long ++ outside ∧
      ((79 < value.length ∧ long = [.tooLong label 79 value.length]) ∨
        (value.length ≤ 79 ∧ long = [])) ∧
      ((∃ c position, alphabet.FirstOutside value.toList c position ∧
          outside = [.invalidCharacter label c position alphabet.description]) ∨
        ((∀ c ∈ value.toList, alphabet.Contains c) ∧ outside = []))) ∧
    (∀ violation, violation ∈ report.violations ↔
      violation.HoldsOf alphabet label value) ∧
    (report.isValid = true ↔
      1 ≤ value.length ∧ value.length ≤ 79 ∧
        ∀ c ∈ value.toList, alphabet.Contains c) := by
  have hreport : ((alphabet.checkName value label).run log).1 =
      ⟨label, value, alphabet.rule.violations label value⟩ := by
    cases alphabet <;> rfl
  rw [hreport]
  refine ⟨?_, ?_, fun violation => mem_violations_iff, ?_⟩
  · intro hempty
    simp only [violations_rule, if_pos hempty]
  · intro hne
    refine ⟨lengthViolations label value.length, characterViolations alphabet label value,
      ?_, ?_, characterViolations_cases alphabet label value⟩
    · simp only [violations_rule, if_neg hne]
    · unfold lengthViolations
      by_cases hlong : maximum < value.length
      · exact .inl ⟨hlong, if_pos hlong⟩
      · exact .inr ⟨Nat.le_of_not_lt hlong, if_neg hlong⟩
  · simp only [Report.isValid, List.isEmpty_iff]
    exact violations_rule_eq_nil_iff

end NameRule

end GalleryNaming
