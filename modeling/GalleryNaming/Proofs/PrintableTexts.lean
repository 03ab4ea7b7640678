import GalleryNaming.Proofs.CheckRuns
import GalleryNaming.Proofs.FaithfulDumps
import GalleryNaming.Proofs.LogLine
import GalleryNaming.Proofs.MessageReading
import GalleryNaming.Proofs.NameReports

/-!
# Texts without unprintable characters

A name comes from outside and may contain anything: line breaks, terminal
controls, characters that hide or turn the direction of writing.  It reaches
messages and logs only through quotations, one character at a time, and a
quotation writes every unprintable character with a backslash, letters and
digits.  Words and numbers are plain ASCII, so what people read is printable
as soon as the label of the field is.  In a dump the label is quoted too.
-/

namespace GalleryNaming.Text

/-- A control below the space, or a character of the table. -/
def Unprintable (c : Char) : Prop :=
  c.toNat < 0x20 ∨ ∃ range ∈ unprintableRanges, range.1 ≤ c.toNat ∧ c.toNat ≤ range.2

def Printable (cs : List Char) : Prop :=
  ∀ c ∈ cs, ¬ Unprintable c

/-- The visible characters of ASCII and the space. -/
def isAscii (c : Char) : Bool :=
  0x20 ≤ c.toNat && c.toNat < 0x7f

theorem unprintable_iff {c : Char} :
    Unprintable c ↔ c.toNat < 0x20 ∨ isUnprintable c = true := by
  rw [Unprintable, isUnprintable_eq_true_iff]

instance (c : Char) : Decidable (Unprintable c) :=
  decidable_of_iff (c.toNat < 0x20 ∨ isUnprintable c = true) unprintable_iff.symm

instance (cs : List Char) : Decidable (Printable cs) :=
  List.decidableBAll (fun c => ¬ Unprintable c) cs

@[simp] theorem printable_nil : Printable [] := by
  simp [Printable]

@[simp] theorem printable_cons {c : Char} {cs : List Char} :
    Printable (c :: cs) ↔ ¬ Unprintable c ∧ Printable cs := by
  simp [Printable]

@[simp] theorem printable_append {cs ds : List Char} :
    Printable (cs ++ ds) ↔ Printable cs ∧ Printable ds := by
  unfold Printable
  exact List.forall_mem_append

/-! ## Words and numbers -/

theorem not_unprintable_of_isAscii {c : Char} (hc : isAscii c = true) :
    ¬ Unprintable c := by
  unfold isAscii at hc
  simp only [Bool.and_eq_true, decide_eq_true_eq] at hc
  rw [unprintable_iff, isUnprintable_of_ascii hc.1 hc.2]
  simp only [Bool.false_eq_true, or_false, Nat.not_lt]
  exact hc.1

theorem printable_of_isAscii {cs : List Char} (hcs : cs.all isAscii = true) :
    Printable cs := by
  intro c hc
  exact not_unprintable_of_isAscii (List.all_eq_true.mp hcs c hc)

/-- All digits and letters lie between these two. -/
theorem not_unprintable_of_range {c first last : Char} (hfirst : '0' ≤ first)
    (hlast : last ≤ 'z') (hc : first ≤ c ∧ c ≤ last) : ¬ Unprintable c := by
  have hlow : 48 ≤ c.toNat := Char.le_trans hfirst hc.1
  have hhigh : c.toNat ≤ 122 := Char.le_trans hc.2 hlast
  apply not_unprintable_of_isAscii
  unfold isAscii
  simp only [Bool.and_eq_true, decide_eq_true_eq]
  omega

theorem not_unprintable_of_hexValue? {c : Char} (hc : (hexValue? c).isSome = true) :
    ¬ Unprintable c := by
  unfold hexValue? at hc
  split at hc
  next hdigit =>
    exact not_unprintable_of_range (by decide) (by decide) hdigit
  next =>
    split at hc
    next hlower =>
      exact not_unprintable_of_range (by decide) (by decide) hlower
    next =>
      split at hc
      next hupper =>
        exact not_unprintable_of_range (by decide) (by decide) hupper
      next => simp at hc

theorem printable_toDigits_sixteen (n : Nat) : Printable (Nat.toDigits 16 n) := by
  intro c hc
  exact not_unprintable_of_hexValue? (hexValue?_of_mem_toDigits hc)

theorem printable_toDigits_ten (n : Nat) : Printable (Nat.toDigits 10 n) := by
  intro c hc
  have hdigit := Nat.isDigit_of_mem_toDigits (by decide) (by decide) hc
  simp only [Char.isDigit, Bool.and_eq_true, decide_eq_true_eq] at hdigit
  have hrange : '0' ≤ c ∧ c ≤ '9' := hdigit
  exact not_unprintable_of_range (by decide) (by decide) hrange

/-! ## Quotations -/

theorem not_unprintable_of_shortName? {c letter : Char}
    (hletter : shortName? c = some letter) : ¬ Unprintable letter := by
  apply not_unprintable_of_isAscii
  unfold shortName? at hletter
  repeat' split at hletter
  all_goals cases hletter
  all_goals rfl

/-- The controls below the space are in the table or have short names. -/
theorem not_unprintable_of_plain {c : Char} (hname : shortName? c = none)
    (hplain : isUnprintable c = false) : ¬ Unprintable c := by
  have hcontrols : ∀ n < 0x20, covers unprintableRanges n = false →
      n = '\x00'.toNat ∨ n = '\t'.toNat ∨ n = '\n'.toNat ∨ n = '\r'.toNat := by
    decide
  rw [unprintable_iff, hplain]
  simp only [Bool.false_eq_true, or_false]
  intro hcontrol
  unfold shortName? at hname
  rcases hcontrols c.toNat hcontrol hplain with hc | hc | hc | hc
  all_goals
    rw [Char.toNat_inj] at hc
    simp [hc] at hname

theorem printable_codePoint (c : Char) : Printable (codePoint c) := by
  unfold codePoint
  simp only [printable_cons, printable_append, printable_nil, and_true]
  refine ⟨?_, ?_, ?_, printable_toDigits_sixteen c.toNat, ?_⟩
  all_goals exact not_unprintable_of_isAscii rfl

theorem IsDelimiter.not_unprintable {delimiter : Char}
    (hdelimiter : IsDelimiter delimiter) : ¬ Unprintable delimiter := by
  apply not_unprintable_of_isAscii
  rcases hdelimiter with hquote | hquote
  · rw [hquote]
    rfl
  · rw [hquote]
    rfl

theorem printable_escape {delimiter : Char} (hdelimiter : IsDelimiter delimiter)
    (c : Char) : Printable (escape delimiter c) := by
  have hbackslash : ¬ Unprintable '\\' := not_unprintable_of_isAscii rfl
  unfold escape
  cases hname : shortName? c with
  | some letter =>
      simp only [printable_cons, printable_nil, and_true]
      exact ⟨hbackslash, not_unprintable_of_shortName? hname⟩
  | none =>
      simp only
      by_cases hc : c = delimiter
      · rw [if_pos hc, hc]
        simp only [printable_cons, printable_nil, and_true]
        exact ⟨hbackslash, hdelimiter.not_unprintable⟩
      · rw [if_neg hc]
        cases hplain : isUnprintable c with
        | true =>
            rw [if_pos rfl]
            exact printable_codePoint c
        | false =>
            simp only [Bool.false_eq_true, if_false, printable_cons, printable_nil,
              and_true]
            exact not_unprintable_of_plain hname hplain

/-- Whatever is quoted, the quotation is printable. -/
theorem printable_enclose {delimiter : Char} (hdelimiter : IsDelimiter delimiter)
    (cs : List Char) : Printable (enclose delimiter cs) := by
  have hbody : Printable (cs.flatMap (escape delimiter)) := by
    intro d hd
    rcases List.mem_flatMap.mp hd with ⟨c, _, hescape⟩
    exact printable_escape hdelimiter c d hescape
  unfold enclose
  simp only [printable_cons, printable_append, printable_nil, and_true]
  exact ⟨hdelimiter.not_unprintable, hbody, hdelimiter.not_unprintable⟩

theorem printable_intercalate {separator : List Char} {items : List (List Char)}
    (hseparator : Printable separator) (hitems : ∀ item ∈ items, Printable item) :
    Printable (separator.intercalate items) := by
  intro c hc
  rcases mem_intercalate hc with hmem | ⟨item, hitem, hmem⟩
  · exact hseparator c hmem
  · exact hitems item hitem c hmem

end GalleryNaming.Text

namespace GalleryNaming

open Text

/-! ## Messages and lines of the log -/

namespace Violation

/-- The parts that a message shows without quotes are printable. -/
def PrintableParts : Violation → Prop
  | .invalidCharacter label _ _ allowed =>
      Printable label.toList ∧ Printable allowed.toList
  | violation => Printable violation.label.toList

theorem printable_message {violation : Violation} (hparts : violation.PrintableParts) :
    Printable violation.message.toList := by
  rw [toList_message]
  cases violation with
  | emptyValue label =>
      simp only [messageChars, printable_append]
      exact ⟨hparts, printable_of_isAscii rfl⟩
  | tooLong label maximum actual =>
      simp only [messageChars, printable_append, printable_toDigits_ten, and_true]
      exact ⟨⟨⟨hparts, printable_of_isAscii rfl⟩, printable_of_isAscii rfl⟩,
        printable_of_isAscii rfl⟩
  | invalidCharacter label character position allowed =>
      have hquoted : Printable (enclose '\x27' [character]) :=
        printable_enclose (.inr rfl) [character]
      simp only [messageChars, printable_append, printable_toDigits_ten, hquoted, and_true]
      exact ⟨⟨⟨⟨⟨hparts.1, printable_of_isAscii rfl⟩, printable_of_isAscii rfl⟩,
        printable_of_isAscii rfl⟩, hparts.2⟩, printable_of_isAscii rfl⟩
  | malformedVersionFormat label value =>
      have hquoted : Printable (enclose '\x22' value.toList) :=
        printable_enclose (.inl rfl) value.toList
      simp only [messageChars, printable_append, hquoted, and_true]
      exact ⟨hparts, printable_of_isAscii rfl⟩

end Violation

theorem Rejection.printable_message {rejection : Rejection}
    (hlabel : Printable rejection.label.toList)
    (hparts : ∀ violation ∈ rejection.violations, violation.PrintableParts) :
    Printable rejection.message.toList := by
  have hmessages : ∀ item ∈ rejection.violations.map Violation.messageChars,
      Printable item := by
    intro item hitem
    rcases List.mem_map.mp hitem with ⟨violation, hviolation, rfl⟩
    rw [← violation.toList_message]
    exact Violation.printable_message (hparts violation hviolation)
  rw [Rejection.toList_message]
  simp only [printable_append]
  exact ⟨⟨⟨printable_of_isAscii rfl, hlabel⟩, printable_of_isAscii rfl⟩,
    printable_intercalate (printable_of_isAscii rfl) hmessages⟩

theorem Log.Entry.printable_message {entry : Log.Entry}
    (hlabel : Printable entry.decision.1.toList) : Printable entry.message.toList := by
  cases entry with
  | accepted label value =>
      have hquoted : Printable (enclose '\x22' value.toList) :=
        printable_enclose (.inl rfl) value.toList
      simp only [Log.Entry.message, String.toList_append, toList_quoteText,
        printable_append, hquoted, and_true]
      exact ⟨⟨printable_of_isAscii rfl, hlabel⟩, printable_of_isAscii rfl⟩
  | rejected label value count =>
      have hquoted : Printable (enclose '\x22' value.toList) :=
        printable_enclose (.inl rfl) value.toList
      simp only [Log.Entry.message, String.toList_append, toList_quoteText,
        Nat.toString_eq_repr, Nat.toList_repr, printable_append, printable_toDigits_ten,
        hquoted, and_true]
      exact ⟨⟨⟨⟨printable_of_isAscii rfl, hlabel⟩, printable_of_isAscii rfl⟩,
        printable_of_isAscii rfl⟩, printable_of_isAscii rfl⟩

/-! ## Dumps -/

namespace Dump

theorem not_unprintable_of_isNameChar {c : Char} (hc : isNameChar c = true) :
    ¬ Unprintable c := by
  simp only [isNameChar, isAlpha_iff, Bool.or_eq_true, decide_eq_true_eq] at hc
  rcases hc with (hlower | hupper) | hunderscore
  · exact not_unprintable_of_range (by decide) (by decide) hlower
  · exact not_unprintable_of_range (by decide) (by decide) hupper
  · rw [hunderscore]
    exact not_unprintable_of_isAscii rfl

theorem IsName.printable {name : String} (hname : IsName name) :
    Printable name.toList := by
  intro c hc
  exact not_unprintable_of_isNameChar (hname.2 c hc)

theorem printable_write {marks : Marks} {items : List (List Char)}
    (hmarks : Printable (marks.opening ++ marks.separator ++ marks.closing))
    (hitems : ∀ item ∈ items, Printable item) : Printable (marks.write items) := by
  intro c hc
  rcases marks.mem_write hc with hmem | ⟨item, hitem, hmem⟩
  · exact hmarks c hmem
  · exact hitems item hitem c hmem

theorem printable_chars {dump : Dump} (hnamed : dump.Named) : Printable dump.chars := by
  induction hnamed with
  | text value =>
      rw [chars]
      exact printable_enclose (.inl rfl) value.toList
  | char value =>
      rw [chars]
      exact printable_enclose (.inr rfl) [value]
  | nat value =>
      rw [chars]
      exact printable_toDigits_ten value
  | list items hitems ih =>
      rw [chars_list]
      apply printable_write (printable_of_isAscii rfl)
      intro text htext
      rcases List.mem_map.mp htext with ⟨item, hitem, rfl⟩
      exact ih item hitem
  | record name fields hname hkeys hvalues ih =>
      by_cases hfields : fields = []
      · rw [hfields, chars_record_nil]
        exact hname.printable
      · rw [chars_record name hfields, printable_append]
        refine ⟨hname.printable, printable_write (printable_of_isAscii rfl) ?_⟩
        intro text htext
        rcases List.mem_map.mp htext with ⟨field, hfield, rfl⟩
        unfold writeField
        simp only [printable_append, printable_cons]
        exact ⟨(hkeys field hfield).printable, not_unprintable_of_isAscii rfl,
          not_unprintable_of_isAscii rfl, ih field hfield⟩

end Dump

/-! ## What checks leave behind -/

theorem Alphabet.printable_description (alphabet : Alphabet) :
    Printable alphabet.description.toList := by
  cases alphabet with
  | gallery => exact printable_of_isAscii rfl
  | image => exact printable_of_isAscii rfl

theorem Violation.HoldsOf.printableParts {alphabet : Alphabet} {label value : String}
    {violation : Violation} (hlabel : Printable label.toList)
    (hholds : violation.HoldsOf alphabet label value) : violation.PrintableParts := by
  cases violation with
  | emptyValue field =>
      rw [← hholds.1] at hlabel
      exact hlabel
  | tooLong field maximum actual =>
      rw [← hholds.1] at hlabel
      exact hlabel
  | invalidCharacter field character position allowed =>
      rw [← hholds.1] at hlabel
      refine ⟨hlabel, ?_⟩
      rw [hholds.2.2]
      exact alphabet.printable_description
  | malformedVersionFormat field echoed => exact absurd hholds id

theorem VersionRule.printableParts_of_mem {label value : String} {violation : Violation}
    (hlabel : Printable label.toList)
    (hmem : violation ∈ VersionRule.violations label value) :
    violation.PrintableParts := by
  unfold VersionRule.violations at hmem
  split at hmem
  next =>
    rw [List.mem_singleton.mp hmem]
    exact hlabel
  next =>
    split at hmem
    next => simp at hmem
    next =>
      rw [List.mem_singleton.mp hmem]
      exact hlabel

theorem Resource.printableParts_of_mem {resource : Resource} {label value : String}
    {violation : Violation} (hlabel : Printable label.toList)
    (hmem : violation ∈ (resource.validator label).violations value) :
    violation.PrintableParts := by
  cases resource with
  | gallery =>
      have hholds : violation.HoldsOf .gallery label value :=
        NameRule.mem_violations_iff.mp hmem
      exact hholds.printableParts hlabel
  | image =>
      have hholds : violation.HoldsOf .image label value :=
        NameRule.mem_violations_iff.mp hmem
      exact hholds.printableParts hlabel
  | imageVersion => exact VersionRule.printableParts_of_mem hlabel hmem

theorem Report.eq_of_result_eq_error {report : Report} {rejection : Rejection}
    (hrejected : report.result = .error rejection) :
    rejection = ⟨report.label, report.violations⟩ := by
  unfold Report.result at hrejected
  split at hrejected
  next => cases hrejected
  next =>
    cases hrejected
    rfl

/-- Under a printable label, whatever name is checked, the line of the log, the
messages and the rejection are printable.  A dump always is. -/
theorem checks_leave_printable_texts
    (resource : Resource) (value label : String) (log : List Log.Entry)
    (hlabel : Printable label.toList) :
    (∃ report entry,
      (resource.check value label).run log = (report, log ++ [entry]) ∧
      ((resource.validator label).validate value).run log =
        (report.result.map fun _ => (), log ++ [entry]) ∧
      Printable entry.message.toList ∧
      (∀ message ∈ report.messages, Printable message.toList) ∧
      ∀ rejection, report.result = .error rejection →
        Printable rejection.message.toList) ∧
    ∀ report : Report, Printable report.toDump.line.toList := by
  let report := (resource.validator label).report value
  have hreportLabel : report.label = label := resource.label_validator label
  have hparts : ∀ violation ∈ report.violations, violation.PrintableParts := by
    intro violation hmem
    exact Resource.printableParts_of_mem hlabel hmem
  refine ⟨⟨report, report.entry, ?_, Validator.run_validate _ _ _, ?_, ?_, ?_⟩, ?_⟩
  · rw [resource.check_eq]
    exact Validator.run_check _ _ _
  · apply Log.Entry.printable_message
    rw [Log.decision_entry, hreportLabel]
    exact hlabel
  · intro message hmessage
    rcases List.mem_map.mp hmessage with ⟨violation, hviolation, rfl⟩
    exact Violation.printable_message (hparts violation hviolation)
  · intro rejection hrejected
    rw [Report.eq_of_result_eq_error hrejected]
    apply Rejection.printable_message
    · rw [hreportLabel]
      exact hlabel
    · exact hparts
  · intro other
    rw [Dump.toList_line]
    exact Dump.printable_chars other.named_toDump

/-- A version with a line break, a terminal sequence and a turn of the writing
direction, which also tries to close its quotation. -/
theorem checks_leave_printable_texts_terminal_controls :
    Printable "version".toList ∧ ¬ Printable "1.2\n\x1b[2J\u202e\x22\\".toList ∧
    ∃ report entry,
      (Resource.imageVersion.check "1.2\n\x1b[2J\u202e\x22\\" "version").run [] =
        (report, [entry]) ∧
      report.isValid = false ∧
      Printable entry.message.toList ∧
      ∀ message ∈ report.messages, Printable message.toList := by
  have hlabel : Printable "version".toList := printable_of_isAscii rfl
  have hvalue : ¬ Printable "1.2\n\x1b[2J\u202e\x22\\".toList := by
    intro hprintable
    exact hprintable '\n' (by decide) (.inl (by decide))
  rcases (checks_leave_printable_texts .imageVersion _ "version" [] hlabel).1 with
    ⟨report, entry, hcheck, _, hline, hmessages, _⟩
  refine ⟨hlabel, hvalue, report, entry, hcheck, ?_, hline, hmessages⟩
  have hreport : ((Resource.imageVersion.validator "version").report _) = report :=
    congrArg Prod.fst hcheck
  rw [← hreport]
  decide

end GalleryNaming
