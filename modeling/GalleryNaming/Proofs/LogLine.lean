import GalleryNaming.Validator
import GalleryNaming.Proofs.QuotedReading

/-!
# Reading a line of the log

The label is written as it stands in the middle of the line, so it may contain
anything, a whole line of the log included.  The name is quoted, and after it
comes nothing or a number between fixed words.  A line is therefore read from
the end: first the words and the number, then the quoted name, and what is
left between the fixed words is the label.
-/

namespace GalleryNaming.Log

open Text

def readNamed (cs : List Char) : Option (String × String) :=
  (Text.lastQuoted '\x22' cs).bind fun quotation =>
    (quotation.1.dropSuffix? " value ".toList).map fun label =>
      (String.ofList label, String.ofList quotation.2)

def readCounted (cs : List Char) : Option (String × String × Nat) :=
  (cs.dropSuffix? " violation(s)".toList).bind fun counted =>
    (Text.lastDecimal counted).bind fun number =>
      (number.1.dropSuffix? " with ".toList).bind fun named =>
        (readNamed named).map fun decision => (decision.1, decision.2, number.2)

/-- The label, the name and the number of broken rules that a line is about. -/
def readMessage (message : String) : Option (String × String × Nat) :=
  match message.toList.dropPrefix? "Accepted ".toList with
  | some named => (readNamed named).map fun decision => (decision.1, decision.2, 0)
  | none => (message.toList.dropPrefix? "Rejected ".toList).bind readCounted

theorem readNamed_enclose (label value : String) :
    readNamed (label.toList ++ " value ".toList ++ Text.enclose '\x22' value.toList) =
      some (label, value) := by
  have hlast : (label.toList ++ " value ".toList).getLast? ≠ some '\\' := by
    simp [List.getLast?_append]
  have hquotation := Text.lastQuoted_enclose (.inl rfl) hlast value.toList
  simp only [readNamed, hquotation, Option.bind_some, dropSuffix?_append, Option.map_some,
    String.ofList_toList]

theorem readCounted_toDigits (label value : String) (count : Nat) :
    readCounted (label.toList ++ " value ".toList ++ Text.enclose '\x22' value.toList ++
        " with ".toList ++ Nat.toDigits 10 count ++ " violation(s)".toList) =
      some (label, value, count) := by
  have hspace : " with ".toList.getLast? = some ' ' := by decide
  have hlast : ∀ c ∈ (label.toList ++ " value ".toList ++
      Text.enclose '\x22' value.toList ++ " with ".toList).getLast?,
      c.isDigit = false := by
    intro c hc
    rw [List.getLast?_append, hspace] at hc
    cases hc
    decide
  simp only [readCounted, dropSuffix?_append, Option.bind_some,
    Text.lastDecimal_toDigits hlast, readNamed_enclose, Option.map_some]

def Entry.decision : Entry → String × String × Nat
  | .accepted label value => (label, value, 0)
  | .rejected label value count => (label, value, count)

theorem readMessage_message (entry : Entry) :
    readMessage entry.message = some entry.decision := by
  cases entry with
  | accepted label value =>
      have hmessage : (Entry.accepted label value).message.toList =
          "Accepted ".toList ++ (label.toList ++ " value ".toList ++
            Text.enclose '\x22' value.toList) := by
        simp only [Entry.message, String.toList_append, Text.toList_quoteText,
          List.append_assoc]
      simp only [readMessage, hmessage, dropPrefix?_append, readNamed_enclose,
        Option.map_some, Entry.decision]
  | rejected label value count =>
      have hmessage : (Entry.rejected label value count).message.toList =
          "Rejected ".toList ++ (label.toList ++ " value ".toList ++
            Text.enclose '\x22' value.toList ++ " with ".toList ++
            Nat.toDigits 10 count ++ " violation(s)".toList) := by
        simp only [Entry.message, String.toList_append, Text.toList_quoteText,
          Nat.toString_eq_repr, Nat.toList_repr, List.append_assoc]
      have hother : ∀ cs, ("Rejected ".toList ++ cs).dropPrefix? "Accepted ".toList =
          none := by
        intro cs
        rfl
      simp only [readMessage, hmessage, hother, dropPrefix?_append, Option.bind_some,
        readCounted_toDigits, Entry.decision]

theorem decision_entry (report : Report) :
    report.entry.decision = (report.label, report.value, report.violations.length) := by
  unfold Report.entry
  by_cases hvalid : report.isValid = true
  · have hnone : report.violations = [] := List.isEmpty_iff.mp hvalid
    rw [if_pos hvalid, hnone]
    rfl
  · rw [if_neg hvalid]
    rfl

/-- Every check leaves one line, from which its label, its name and the number
of violations are read back.  Two checks that leave the same line therefore
agree on all three, whatever the validators are. -/
theorem check_line_unambiguous
    (validator other : Validator) (value otherValue : String)
    (log otherLog : List Entry) :
    ∃ entry otherEntry,
      ((validator.check value).run log).2 = log ++ [entry] ∧
      ((other.check otherValue).run otherLog).2 = otherLog ++ [otherEntry] ∧
      readMessage entry.message =
        some (validator.label, value, (validator.violations value).length) ∧
      (entry.level = otherEntry.level → entry.message = otherEntry.message →
        validator.label = other.label ∧ value = otherValue ∧
          (validator.violations value).length =
            (other.violations otherValue).length) := by
  have hread : ∀ (validator : Validator) (value : String),
      readMessage (validator.report value).entry.message =
        some (validator.label, value, (validator.violations value).length) := by
    intro validator value
    rw [readMessage_message, decision_entry]
    rfl
  refine ⟨(validator.report value).entry, (other.report otherValue).entry, rfl, rfl,
    hread validator value, ?_⟩
  intro _ hmessage
  have hdecision := hread validator value
  rw [hmessage, hread other otherValue] at hdecision
  simp only [Option.some.injEq, Prod.mk.injEq] at hdecision
  obtain ⟨hlabel, hvalue, hcount⟩ := hdecision
  exact ⟨hlabel.symm, hvalue.symm, hcount.symm⟩

/-- Two validators with different rules, under a label that looks like the
beginning of a line itself. -/
theorem check_line_unambiguous_label_like_line :
    let label := "name value \x22a\x22 with 2 violation(s) value "
    let validator : Validator := ⟨label, fun _ => [.emptyValue label]⟩
    let other : Validator := ⟨label, fun value => [.malformedVersionFormat label value]⟩
    ∃ entry otherEntry,
      ((validator.check "\x22b").run []).2 = [entry] ∧
      ((other.check "\x22b").run []).2 = [otherEntry] ∧
      entry.level = otherEntry.level ∧ entry.message = otherEntry.message ∧
      (validator.violations "\x22b").length = (other.violations "\x22b").length := by
  intro label validator other
  obtain ⟨entry, otherEntry, hentry, hother, _, hsame⟩ :=
    check_line_unambiguous validator other "\x22b" "\x22b" [] []
  have hlogs : ((validator.check "\x22b").run []).2 = ((other.check "\x22b").run []).2 :=
    rfl
  have heq : entry = otherEntry := by
    rw [hentry, hother] at hlogs
    simpa using hlogs
  have hlevel := congrArg Entry.level heq
  have hmessage := congrArg Entry.message heq
  exact ⟨entry, otherEntry, hentry, hother, hlevel, hmessage,
    (hsame hlevel hmessage).2.2⟩

end GalleryNaming.Log
