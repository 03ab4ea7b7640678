import GalleryNaming.Proofs.CheckRuns
import GalleryNaming.Proofs.MessageReading

/-!
# Labels have no influence on decisions

The label of a field says where a name stands and nothing about the name.  The
lemmas here compare two checks of one name under two labels.  Rule by rule, the
violations under the second label are those under the first with the label
exchanged.  Kinds, data and complaints are therefore the same, messages differ
in what stands before the complaint, and the lines of the log in what stands
before the name.
-/

namespace GalleryNaming

namespace Violation

/-- The same rule broken in the same way, reported under each of two labels. -/
inductive SameBut (label other : String) : Violation → Violation → Prop
  | emptyValue : SameBut label other (.emptyValue label) (.emptyValue other)
  | tooLong (maximum actual : Nat) :
      SameBut label other (.tooLong label maximum actual) (.tooLong other maximum actual)
  | invalidCharacter (character : Char) (position : Nat) (allowed : String) :
      SameBut label other (.invalidCharacter label character position allowed)
        (.invalidCharacter other character position allowed)
  | malformedVersionFormat (value : String) :
      SameBut label other (.malformedVersionFormat label value)
        (.malformedVersionFormat other value)

theorem sameBut_withLabel (violation : Violation) (other : String) :
    SameBut violation.label other violation (violation.withLabel other) := by
  cases violation with
  | emptyValue label => exact .emptyValue
  | tooLong label maximum actual => exact .tooLong maximum actual
  | invalidCharacter label character position allowed =>
      exact .invalidCharacter character position allowed
  | malformedVersionFormat label value => exact .malformedVersionFormat value

@[simp] theorem kind_withLabel (label : String) (violation : Violation) :
    (violation.withLabel label).kind = violation.kind := by
  cases violation <;> rfl

end Violation

/-! ## The rules -/

namespace NameRule

theorem map_withLabel_lengthViolations (label other : String) (length : Nat) :
    (lengthViolations label length).map (Violation.withLabel other) =
      lengthViolations other length := by
  unfold lengthViolations
  by_cases hlong : maximum < length
  · rw [if_pos hlong, if_pos hlong]
    rfl
  · rw [if_neg hlong, if_neg hlong]
    rfl

theorem map_withLabel_characterViolations
    (alphabet : Alphabet) (label other value : String) :
    (characterViolations alphabet label value).map (Violation.withLabel other) =
      characterViolations alphabet other value := by
  unfold characterViolations
  cases alphabet.firstOutside value.toList with
  | none => rfl
  | some found => rfl

theorem map_withLabel_violations (rule : NameRule) (label other value : String) :
    (rule.violations label value).map (Violation.withLabel other) =
      rule.violations other value := by
  unfold violations
  by_cases hempty : rule.measure value < minimum
  · rw [if_pos hempty, if_pos hempty]
    rfl
  · rw [if_neg hempty, if_neg hempty, List.map_append, map_withLabel_lengthViolations,
      map_withLabel_characterViolations]

end NameRule

theorem VersionRule.map_withLabel_violations (label other value : String) :
    (violations label value).map (Violation.withLabel other) =
      violations other value := by
  unfold violations
  by_cases hempty : value = ""
  · rw [if_pos hempty, if_pos hempty]
    rfl
  · rw [if_neg hempty, if_neg hempty]
    by_cases hversion : pattern.occursIn value.toList = true
    · rw [if_pos hversion, if_pos hversion]
      rfl
    · rw [if_neg hversion, if_neg hversion]
      rfl

/-! ## Reports and lines of the log -/

namespace Log.Entry

def withLabel (label : String) : Entry → Entry
  | .accepted _ value => .accepted label value
  | .rejected _ value count => .rejected label value count

/-- The word before the label. -/
def opening : Entry → String
  | .accepted .. => "Accepted "
  | .rejected .. => "Rejected "

/-- What follows the word after the label. -/
def ending : Entry → String
  | .accepted _ value => Text.quoteText value
  | .rejected _ value count =>
      Text.quoteText value ++ " with " ++ toString count ++ " violation(s)"

theorem opening_cases (entry : Entry) :
    entry.opening = "Accepted " ∨ entry.opening = "Rejected " := by
  cases entry with
  | accepted label value => exact .inl rfl
  | rejected label value count => exact .inr rfl

@[simp] theorem level_withLabel (label : String) (entry : Entry) :
    (entry.withLabel label).level = entry.level := by
  cases entry <;> rfl

theorem message_withLabel (label : String) (entry : Entry) :
    (entry.withLabel label).message = entry.opening ++ label ++ " value " ++ entry.ending := by
  cases entry with
  | accepted field value => rfl
  | rejected field value count =>
      simp only [withLabel, message, opening, ending, String.append_assoc]

end Log.Entry

namespace Report

def withLabel (label : String) (report : Report) : Report :=
  ⟨label, report.value, report.violations.map (Violation.withLabel label)⟩

@[simp] theorem isValid_withLabel (label : String) (report : Report) :
    (report.withLabel label).isValid = report.isValid := by
  simp [withLabel, isValid]

theorem entry_withLabel (label : String) (report : Report) :
    (report.withLabel label).entry = report.entry.withLabel label := by
  unfold entry
  rw [isValid_withLabel]
  by_cases hvalid : report.isValid = true
  · rw [if_pos hvalid, if_pos hvalid]
    rfl
  · rw [if_neg hvalid, if_neg hvalid]
    simp only [withLabel, Log.Entry.withLabel, List.length_map]

theorem messages_withLabel (label : String) (report : Report) :
    (report.withLabel label).messages =
      (report.violations.map Violation.complaint).map (label ++ ·) := by
  unfold messages withLabel
  simp only [List.map_map]
  apply List.map_congr_left
  intro violation _
  simp only [Function.comp_apply, Violation.message, Violation.label_withLabel,
    Violation.complaint_withLabel]

theorem kinds_withLabel (label : String) (report : Report) :
    (report.withLabel label).violations.map Violation.kind =
      report.violations.map Violation.kind := by
  unfold withLabel
  simp only [List.map_map]
  apply List.map_congr_left
  intro violation _
  exact Violation.kind_withLabel label violation

theorem sameBut_withLabel (label other : String) (report : Report) :
    List.Forall₂ (Violation.SameBut label other)
      (report.withLabel label).violations (report.withLabel other).violations := by
  unfold withLabel
  rw [List.forall₂_map_left_iff, List.forall₂_map_right_iff, List.forall₂_same]
  intro violation _
  have hsame := (violation.withLabel label).sameBut_withLabel other
  rw [Violation.label_withLabel, Violation.withLabel_withLabel] at hsame
  exact hsame

end Report

namespace Resource

theorem map_withLabel_violations (resource : Resource) (label other value : String) :
    ((resource.validator label).violations value).map (Violation.withLabel other) =
      (resource.validator other).violations value := by
  cases resource with
  | gallery => exact NameRule.gallery.map_withLabel_violations label other value
  | image => exact NameRule.image.map_withLabel_violations label other value
  | imageVersion => exact VersionRule.map_withLabel_violations label other value

theorem withLabel_report (resource : Resource) (label other value : String) :
    ((resource.validator label).report value).withLabel other =
      (resource.validator other).report value := by
  unfold Validator.report Report.withLabel
  simp only [map_withLabel_violations, label_validator]

/-- A check under any label is a check under no label, with the label put in. -/
theorem run_check_withLabel (resource : Resource) (value label : String)
    (log : List Log.Entry) :
    (resource.check value label).run log =
      (((resource.validator "").report value).withLabel label,
        log ++ [((resource.validator "").report value).entry.withLabel label]) := by
  rw [resource.check_eq, Validator.run_check, ← Report.entry_withLabel,
    resource.withLabel_report "" label value]

end Resource

/-- Two checks of one name under two labels: the violations correspond one by one
and carry the same data, the messages are the labels before the same complaints,
and the lines of the log are the same but for the label.  Both checks are compared
with the check under no label, which fixes the complaints, the level and what
surrounds the label in the line. -/
theorem check_blind_to_label (resource : Resource) (value : String) :
    ∃ (complaints : List String) (level : Log.Level) (opening ending : String),
      (opening = "Accepted " ∨ opening = "Rejected ") ∧
      ∀ (label other : String) (log otherLog : List Log.Entry),
        ∃ report otherReport entry otherEntry,
          (resource.check value label).run log = (report, log ++ [entry]) ∧
          (resource.check value other).run otherLog =
            (otherReport, otherLog ++ [otherEntry]) ∧
          report.value = value ∧ otherReport.value = value ∧
          List.Forall₂ (Violation.SameBut label other) report.violations
            otherReport.violations ∧
          report.isValid = otherReport.isValid ∧
          report.violations.map Violation.kind = otherReport.violations.map Violation.kind ∧
          report.messages = complaints.map (label ++ ·) ∧
          otherReport.messages = complaints.map (other ++ ·) ∧
          entry.level = level ∧ otherEntry.level = level ∧
          entry.message = opening ++ label ++ " value " ++ ending ∧
          otherEntry.message = opening ++ other ++ " value " ++ ending := by
  let report := (resource.validator "").report value
  refine ⟨report.violations.map Violation.complaint, report.entry.level,
    report.entry.opening, report.entry.ending, report.entry.opening_cases, ?_⟩
  intro label other log otherLog
  refine ⟨report.withLabel label, report.withLabel other, report.entry.withLabel label,
    report.entry.withLabel other, resource.run_check_withLabel value label log,
    resource.run_check_withLabel value other otherLog, rfl, rfl,
    report.sameBut_withLabel label other, ?_, ?_, report.messages_withLabel label,
    report.messages_withLabel other, report.entry.level_withLabel label,
    report.entry.level_withLabel other, report.entry.message_withLabel label,
    report.entry.message_withLabel other⟩
  · rw [Report.isValid_withLabel, Report.isValid_withLabel]
  · rw [Report.kinds_withLabel, Report.kinds_withLabel]

end GalleryNaming
