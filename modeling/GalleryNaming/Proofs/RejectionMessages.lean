import GalleryNaming.Chain
import GalleryNaming.Proofs.CheckRuns
import GalleryNaming.Proofs.MessageReading
import GalleryNaming.Proofs.NameReports
import GalleryNaming.Proofs.RepeatedLabels

/-!
# Rejections are told apart by their messages

The message of a rejection says its label in front and once more in each of its
messages.  It is taken apart in two steps.  The last message is read from its
end, whatever stands before it.  What is left is the label twice when there is
one violation, and three times when the length is reported before another one,
and there the labels can be compared.  Validators give no other rejections.
-/

namespace GalleryNaming

open Text

namespace Violation

/-- Two messages agree only if the violations do, up to what their labels are. -/
theorem withLabel_message_injective
    {violation other : Violation} {label otherLabel : String}
    (hplain : violation.PlainAllowed) (hother : other.PlainAllowed)
    (hmessage : (violation.withLabel label).message =
      (other.withLabel otherLabel).message) :
    label = otherLabel ∧ (violation.label = other.label → violation = other) := by
  have heq : violation.withLabel label = other.withLabel otherLabel :=
    message_injective (plainAllowed_withLabel.mpr hplain)
      (plainAllowed_withLabel.mpr hother) hmessage
  constructor
  · simpa using congrArg Violation.label heq
  · intro hlabel
    have hsame := congrArg (withLabel violation.label) heq
    rw [withLabel_withLabel, withLabel_withLabel, withLabel_label, hlabel,
      withLabel_label] at hsame
    exact hsame

/-- What follows the bracket in a message on the length, up to the next message. -/
def countedTail (maximum actual : Nat) : List Char :=
  Nat.toDigits 10 actual ++ " characters, maximum ".toList ++
    Nat.toDigits 10 maximum ++ "); ".toList

theorem toList_complaint_tooLong (label : String) (maximum actual : Nat) :
    ((tooLong label maximum actual).complaint ++ "; ").toList =
      " is too long ".toList ++ '(' :: countedTail maximum actual := by
  have hcomplaint : (tooLong label maximum actual).complaint =
      " is too long (" ++ toString actual ++ " characters, maximum " ++
        toString maximum ++ ")" := rfl
  have hopening : " is too long (".toList = " is too long ".toList ++ ['('] := by decide
  have hclosing : "); ".toList = ")".toList ++ "; ".toList := by decide
  rw [countedTail, hclosing, ← List.singleton_append, ← List.append_assoc, ← hopening]
  simp only [hcomplaint, String.toList_append, Nat.toString_eq_repr, Nat.toList_repr,
    List.append_assoc]

theorem tooLong_eq_of_countedTail_eq
    {maximum actual otherMaximum otherActual : Nat} (label : String)
    (htail : countedTail maximum actual = countedTail otherMaximum otherActual) :
    tooLong label maximum actual = tooLong label otherMaximum otherActual := by
  have hcomplaint : (tooLong label maximum actual).complaint ++ "; " =
      (tooLong label otherMaximum otherActual).complaint ++ "; " := by
    apply String.toList_inj.mp
    rw [toList_complaint_tooLong, toList_complaint_tooLong, htail]
  refine Violation.message_injective ?_ ?_ ?_
  · trivial
  · trivial
  · rw [message, message, (String.append_left_inj "; ").mp hcomplaint]
    rfl

theorem bracket_not_mem_countedTail (maximum actual : Nat) :
    '(' ∉ countedTail maximum actual := by
  simp [countedTail, not_mem_toDigits]

theorem colon_not_mem_counted (maximum actual : Nat) :
    ':' ∉ " is too long ".toList ++ '(' :: countedTail maximum actual := by
  simp [countedTail, not_mem_toDigits]

end Violation

namespace Rejection

open Violation

/-- The rejections that validators give: one violation, or the length and one
more, all under the label of the rejection. -/
inductive Produced : Rejection → Prop
  | single (violation : Violation) (hplain : violation.PlainAllowed) :
      Produced ⟨violation.label, [violation]⟩
  | afterLength (maximum actual : Nat) (violation : Violation)
      (hplain : violation.PlainAllowed) :
      Produced ⟨violation.label, [.tooLong violation.label maximum actual, violation]⟩

/-- What precedes the last complaint when there is one violation only. -/
def doubledLabel (label : String) : String :=
  label ++ ": " ++ label

/-- What precedes the last complaint when there is one on the length before it. -/
def tripledLabel (label : String) (maximum actual : Nat) : String :=
  label ++ ": " ++ label ++ ((tooLong label maximum actual).complaint ++ "; ") ++ label

theorem toList_doubledLabel (label : String) :
    (doubledLabel label).toList = label.toList ++ ':' :: [' '] ++ label.toList := by
  rw [doubledLabel, String.toList_append, String.toList_append]
  rfl

theorem toList_tripledLabel (label : String) (maximum actual : Nat) :
    (tripledLabel label maximum actual).toList =
      label.toList ++ ':' :: [' '] ++ label.toList ++
        (" is too long ".toList ++ '(' :: countedTail maximum actual) ++ label.toList := by
  rw [tripledLabel, String.toList_append, String.toList_append, toList_complaint_tooLong,
    String.toList_append, String.toList_append]
  rfl

theorem message_single (violation : Violation) :
    message ⟨violation.label, [violation]⟩ =
      (violation.withLabel ("invalid " ++ doubledLabel violation.label)).message := by
  have hjoin : message ⟨violation.label, [violation]⟩ =
      "invalid " ++ violation.label ++ ": " ++ violation.message := rfl
  rw [hjoin, append_message, doubledLabel]
  simp only [String.append_assoc]

theorem message_afterLength (maximum actual : Nat) (violation : Violation) :
    message ⟨violation.label, [.tooLong violation.label maximum actual, violation]⟩ =
      (violation.withLabel
        ("invalid " ++ tripledLabel violation.label maximum actual)).message := by
  have hjoin :
      message ⟨violation.label, [.tooLong violation.label maximum actual, violation]⟩ =
        "invalid " ++ violation.label ++ ": " ++ (violation.label ++
          (tooLong violation.label maximum actual).complaint ++ "; " ++
            violation.message) := rfl
  rw [hjoin, ← String.append_assoc, append_message, tripledLabel]
  simp only [String.append_assoc]

theorem lead_injective {lead other : String}
    (heq : "invalid " ++ lead = "invalid " ++ other) : lead.toList = other.toList := by
  simpa using congrArg String.toList heq

theorem message_single_injective
    {violation other : Violation} (hplain : violation.PlainAllowed)
    (hother : other.PlainAllowed)
    (hmessage : message ⟨violation.label, [violation]⟩ = message ⟨other.label, [other]⟩) :
    violation = other := by
  rw [message_single, message_single] at hmessage
  obtain ⟨hlead, hsame⟩ := withLabel_message_injective hplain hother hmessage
  have hchars := lead_injective hlead
  rw [toList_doubledLabel, toList_doubledLabel] at hchars
  exact hsame (String.toList_inj.mp (eq_of_doubled hchars))

/-- The message of one violation is never that of a length and one more. -/
theorem message_single_ne_afterLength
    {violation other : Violation} (hplain : violation.PlainAllowed)
    (hother : other.PlainAllowed) (maximum actual : Nat) :
    message ⟨violation.label, [violation]⟩ ≠
      message ⟨other.label, [.tooLong other.label maximum actual, other]⟩ := by
  intro hmessage
  rw [message_single, message_afterLength] at hmessage
  obtain ⟨hlead, _⟩ := withLabel_message_injective hplain hother hmessage
  have hchars := lead_injective hlead
  rw [toList_doubledLabel, toList_tripledLabel] at hchars
  have hlong : 2 * ([' '].length + 1) ≤
      (" is too long ".toList ++ '(' :: countedTail maximum actual).length := by
    simp
  exact doubled_ne_tripled (colon_not_mem_counted maximum actual) hlong hchars

theorem message_afterLength_injective
    {violation other : Violation} {maximum actual otherMaximum otherActual : Nat}
    (hplain : violation.PlainAllowed) (hother : other.PlainAllowed)
    (hmessage :
      message ⟨violation.label, [.tooLong violation.label maximum actual, violation]⟩ =
        message ⟨other.label, [.tooLong other.label otherMaximum otherActual, other]⟩) :
    violation = other ∧
      tooLong violation.label maximum actual =
        tooLong other.label otherMaximum otherActual := by
  rw [message_afterLength, message_afterLength] at hmessage
  obtain ⟨hlead, hsame⟩ := withLabel_message_injective hplain hother hmessage
  have hchars := lead_injective hlead
  rw [toList_tripledLabel, toList_tripledLabel] at hchars
  obtain ⟨hlabel, htail⟩ := eq_of_tripled (bracket_not_mem_countedTail maximum actual)
    (bracket_not_mem_countedTail otherMaximum otherActual) hchars
  have hviolation := hsame (String.toList_inj.mp hlabel)
  subst hviolation
  exact ⟨rfl, tooLong_eq_of_countedTail_eq _ htail⟩

theorem Produced.message_injective
    {rejection other : Rejection} (hproduced : rejection.Produced)
    (hother : other.Produced) (hmessage : rejection.message = other.message) :
    rejection = other := by
  cases hproduced with
  | single violation hplain =>
      cases hother with
      | single second hsecond =>
          rw [message_single_injective hplain hsecond hmessage]
      | afterLength maximum actual second hsecond =>
          exact absurd hmessage
            (message_single_ne_afterLength hplain hsecond maximum actual)
  | afterLength maximum actual violation hplain =>
      cases hother with
      | single second hsecond =>
          exact absurd hmessage.symm
            (message_single_ne_afterLength hsecond hplain maximum actual)
      | afterLength otherMaximum otherActual second hsecond =>
          obtain ⟨hviolation, hlength⟩ :=
            message_afterLength_injective hplain hsecond hmessage
          rw [hlength, hviolation]

/-! ## What validators reject with -/

theorem plainAllowed_description (alphabet : Alphabet) (label : String) (c : Char)
    (position : Nat) :
    (invalidCharacter label c position alphabet.description).PlainAllowed := by
  cases alphabet <;> simp only [PlainAllowed] <;> decide

theorem produced_of_nameRule (alphabet : Alphabet) {label value : String}
    (hbroken : alphabet.rule.violations label value ≠ []) :
    Produced ⟨label, alphabet.rule.violations label value⟩ := by
  rw [NameRule.violations_rule] at hbroken ⊢
  by_cases hempty : value.length = 0
  · rw [if_pos hempty]
    exact .single (.emptyValue label) trivial
  · rw [if_neg hempty] at hbroken ⊢
    rw [NameRule.lengthViolations] at hbroken ⊢
    rcases NameRule.characterViolations_cases alphabet label value with
      ⟨c, position, _, hcharacter⟩ | ⟨_, hcharacter⟩
    · have hplain := plainAllowed_description alphabet label c position
      rw [hcharacter]
      by_cases hlong : NameRule.maximum < value.length
      · rw [if_pos hlong]
        exact .afterLength NameRule.maximum value.length _ hplain
      · rw [if_neg hlong]
        exact .single _ hplain
    · rw [hcharacter] at hbroken ⊢
      by_cases hlong : NameRule.maximum < value.length
      · rw [if_pos hlong]
        exact .single (.tooLong label NameRule.maximum value.length) trivial
      · rw [if_neg hlong] at hbroken
        exact absurd rfl hbroken

theorem produced_of_versionRule {label value : String}
    (hbroken : VersionRule.violations label value ≠ []) :
    Produced ⟨label, VersionRule.violations label value⟩ := by
  rw [VersionRule.violations] at hbroken ⊢
  by_cases hempty : value = ""
  · rw [if_pos hempty]
    exact .single (.emptyValue label) trivial
  · rw [if_neg hempty] at hbroken ⊢
    by_cases hversion : VersionRule.pattern.occursIn value.toList = true
    · rw [if_pos hversion] at hbroken
      exact absurd rfl hbroken
    · rw [if_neg hversion]
      exact .single (.malformedVersionFormat label value) trivial

theorem produced_of_validate {field : NameField} {value : String} {log : List Log.Entry}
    {rejection : Rejection}
    (hrejected : ((field.validator.validate value).run log).1 = .error rejection) :
    rejection.Produced := by
  obtain ⟨hbroken, rfl⟩ := (field.validator.verdict_eq_error_iff value rejection).mp hrejected
  obtain ⟨resource, label⟩ := field
  cases resource with
  | gallery => exact produced_of_nameRule .gallery hbroken
  | image => exact produced_of_nameRule .image hbroken
  | imageVersion => exact produced_of_versionRule hbroken

/-- No two different rejections read the same, whatever the resources, the labels
and the names are. -/
theorem validate_message_unambiguous
    (field other : NameField) (value otherValue : String)
    (log otherLog : List Log.Entry) (rejection otherRejection : Rejection)
    (hrejected : ((field.validator.validate value).run log).1 = .error rejection)
    (hother : ((other.validator.validate otherValue).run otherLog).1 =
      .error otherRejection)
    (hmessage : rejection.message = otherRejection.message) :
    rejection = otherRejection :=
  (produced_of_validate hrejected).message_injective (produced_of_validate hother) hmessage

/-- Two names with the same first offender, under a label that contains a message
of its own. -/
theorem validate_message_unambiguous_label_like_message :
    let field : NameField :=
      ⟨.gallery, "name: name is too long (80 characters, maximum 79); name"⟩
    ∃ rejection otherRejection,
      ((field.validator.validate "a-b").run []).1 = .error rejection ∧
      ((field.validator.validate "c-d-e").run []).1 = .error otherRejection ∧
      rejection.message = otherRejection.message ∧ rejection = otherRejection := by
  intro field
  let rejection : Rejection :=
    ⟨field.label, [.invalidCharacter field.label '-' 1 Alphabet.gallery.description]⟩
  have hrejected : ((field.validator.validate "a-b").run []).1 = .error rejection := by
    rfl
  have hother : ((field.validator.validate "c-d-e").run []).1 = .error rejection := by
    rfl
  exact ⟨rejection, rejection, hrejected, hother, rfl,
    validate_message_unambiguous field field "a-b" "c-d-e" [] [] rejection rejection
      hrejected hother rfl⟩

end Rejection

end GalleryNaming
