import GalleryNaming.Proofs.Outsiders
import Mathlib.Data.List.Basic

/-!
# Repairing names

A name with outsiders is repaired by doing what its reports ask for.  In each
round the name is checked and the outsider that the report shows is exchanged
for a character of the alphabet, until a report shows none.  Which characters
are put in is left open: they are given as a list, and whoever chooses them may
look at the earlier reports before choosing the next one.  A list that is too
short ends the rounds early, so every state of a repair is the end of one.

One round removes the first outsider of the name and leaves the others, at their
positions.  By induction on the choices, the reports show the outsiders of the
first name from left to right, and the number of rounds that are left is the
number of outsiders that are left.
-/

namespace GalleryNaming

/-- The name with another character at a position. -/
def exchange (value : String) (position : Nat) (choice : Char) : String :=
  String.ofList (value.toList.set position choice)

structure Repair where
  /-- The reports that showed an outsider and were followed by an exchange. -/
  rounds : List Report
  /-- The report on what the name has become. -/
  last : Report

namespace Repair

def afterRound (repair : Repair) (report : Report) : Repair :=
  { repair with rounds := report :: repair.rounds }

def reports (repair : Repair) : List Report :=
  repair.rounds ++ [repair.last]

theorem last_mem_reports (repair : Repair) : repair.last ∈ repair.reports := by
  rw [reports, List.mem_append, List.mem_singleton]
  exact .inr rfl

/-- Checks the name and goes on with the repaired one while there is something to
repair and a character to repair it with. -/
def run (alphabet : Alphabet) (label : String) : List Char → String → Logged Repair
  | [], value => return ⟨[], ← alphabet.checkName value label⟩
  | choice :: choices, value => do
      let report ← alphabet.checkName value label
      match report.outsider? with
      | none => return ⟨[], report⟩
      | some (_, position) =>
          return (← run alphabet label choices (exchange value position choice)).afterRound report

/-! ## One round -/

theorem outsiders_exchange {alphabet : Alphabet} {value : String} {c choice : Char}
    {position : Nat} (hfirst : (alphabet.outsiders value.toList).head? = some (c, position))
    (hchoice : alphabet.Contains choice) :
    alphabet.outsiders (exchange value position choice).toList =
      (alphabet.outsiders value.toList).tail := by
  rw [Alphabet.head?_outsiders, Alphabet.firstOutside_eq_some_iff] at hfirst
  obtain ⟨before, after, hvalue, hposition, hbefore, houtside⟩ := hfirst
  have hnone : alphabet.outsiders before = [] := Alphabet.outsiders_eq_nil_iff.mpr hbefore
  have hexchange : (exchange value position choice).toList = before ++ choice :: after := by
    rw [exchange, String.toList_ofList, hvalue, ← hposition,
      List.set_append_right before.length choice le_rfl, Nat.sub_self, List.set_cons_zero]
  rw [hexchange, hvalue, Alphabet.outsiders_append, Alphabet.outsiders_append, hnone,
    Alphabet.outsiders_cons_of_contains hchoice,
    Alphabet.outsiders_cons_of_not_contains houtside]
  rfl

@[simp] theorem length_exchange (value : String) (position : Nat) (choice : Char) :
    (exchange value position choice).length = value.length := by
  rw [exchange, String.length_ofList, List.length_set, String.length_toList]

variable {alphabet : Alphabet} {label value : String}

theorem run_nil (log : List Log.Entry) :
    (run alphabet label [] value).run log =
      (⟨[], alphabet.report label value⟩, log ++ [(alphabet.report label value).entry]) := by
  rw [run, Alphabet.run_checkName_bind]
  rfl

theorem run_cons_of_none (hnone : (alphabet.report label value).outsider? = none)
    (choice : Char) (choices : List Char) (log : List Log.Entry) :
    (run alphabet label (choice :: choices) value).run log =
      (⟨[], alphabet.report label value⟩, log ++ [(alphabet.report label value).entry]) := by
  rw [run, Alphabet.run_checkName_bind]
  simp only [hnone]
  rfl

theorem run_cons_of_some {c : Char} {position : Nat}
    (hsome : (alphabet.report label value).outsider? = some (c, position))
    (choice : Char) (choices : List Char) (log : List Log.Entry) :
    (run alphabet label (choice :: choices) value).run log =
      let rest := (run alphabet label choices (exchange value position choice)).run
        (log ++ [(alphabet.report label value).entry])
      (rest.1.afterRound (alphabet.report label value), rest.2) := by
  rw [run, Alphabet.run_checkName_bind]
  simp only [hsome]
  rfl

/-! ## All rounds -/

/-- What holds of a repair of the name for which so many choices were given, and
of the log that it leaves. -/
structure Mended (alphabet : Alphabet) (label value : String) (count : Nat)
    (log : List Log.Entry) (result : Repair × List Log.Entry) : Prop where
  shown : result.1.rounds.map Report.outsider? =
    ((alphabet.outsiders value.toList).take count).map some
  remaining : alphabet.outsiders result.1.last.value.toList =
    (alphabet.outsiders value.toList).drop count
  checked : ∀ report ∈ result.1.reports, report = alphabet.report label report.value
  kept : ∀ report ∈ result.1.reports, report.value.length = value.length
  logged : result.2 = log ++ result.1.reports.map Report.entry

/-- A repair in which no character is exchanged. -/
theorem Mended.ofLast {count : Nat}
    (hidle : count = 0 ∨ alphabet.outsiders value.toList = []) (log : List Log.Entry) :
    Mended alphabet label value count log
      (⟨[], alphabet.report label value⟩, log ++ [(alphabet.report label value).entry]) := by
  have hvalue : (alphabet.report label value).value = value := by
    rw [Alphabet.report_eq]
  refine ⟨?_, ?_, ?_, ?_, ?_⟩
  · rcases hidle with hcount | hnone
    · rw [hcount, List.take_zero, List.map_nil, List.map_nil]
    · rw [hnone, List.take_nil, List.map_nil, List.map_nil]
  · rcases hidle with hcount | hnone
    · rw [hvalue, hcount, List.drop_zero]
    · rw [hvalue, hnone, List.drop_nil]
  · intro report hreport
    rw [reports, List.nil_append, List.mem_singleton] at hreport
    rw [hreport, hvalue]
  · intro report hreport
    rw [reports, List.nil_append, List.mem_singleton] at hreport
    rw [hreport, hvalue]
  · rfl

/-- A round in front of a repair of what it leaves. -/
theorem Mended.afterRound {c choice : Char} {position count : Nat}
    {log : List Log.Entry} {rest : Repair × List Log.Entry}
    (hsome : (alphabet.report label value).outsider? = some (c, position))
    (hchoice : alphabet.Contains choice)
    (hrest : Mended alphabet label (exchange value position choice) count
      (log ++ [(alphabet.report label value).entry]) rest) :
    Mended alphabet label value (count + 1) log
      (rest.1.afterRound (alphabet.report label value), rest.2) := by
  have hvalue : (alphabet.report label value).value = value := by
    rw [Alphabet.report_eq]
  have hhead : (alphabet.outsiders value.toList).head? = some (c, position) := by
    rw [← Alphabet.outsider?_report, hsome]
  have houtsiders : alphabet.outsiders value.toList =
      (c, position) :: alphabet.outsiders (exchange value position choice).toList := by
    rw [outsiders_exchange hhead hchoice]
    exact (List.cons_head?_tail hhead).symm
  refine ⟨?_, ?_, ?_, ?_, ?_⟩
  · rw [houtsiders, List.take_succ_cons, List.map_cons, ← hrest.shown, ← hsome]
    rfl
  · rw [houtsiders, List.drop_succ_cons]
    exact hrest.remaining
  · intro report hreport
    rcases List.mem_cons.mp hreport with heq | hlater
    · rw [heq, hvalue]
    · exact hrest.checked report hlater
  · intro report hreport
    rcases List.mem_cons.mp hreport with heq | hlater
    · rw [heq, hvalue]
    · rw [hrest.kept report hlater, length_exchange]
  · rw [hrest.logged, List.append_assoc]
    rfl

/-- The rounds of a repair, one for each choice as long as there is an outsider to
exchange.  Later choices are not used up. -/
theorem mended_run {choices : List Char}
    (hchoices : ∀ choice ∈ choices, alphabet.Contains choice) (log : List Log.Entry) :
    Mended alphabet label value choices.length log
      ((run alphabet label choices value).run log) := by
  induction choices generalizing value log with
  | nil =>
      rw [run_nil]
      exact .ofLast (.inl rfl) log
  | cons choice choices ih =>
      cases hfound : (alphabet.report label value).outsider? with
      | none =>
          rw [run_cons_of_none hfound]
          rw [Alphabet.outsider?_report, List.head?_eq_none_iff] at hfound
          exact .ofLast (.inr hfound) log
      | some found =>
          have hchoice := hchoices choice List.mem_cons_self
          have hothers : ∀ other ∈ choices, alphabet.Contains other := by
            intro other hother
            exact hchoices other (List.mem_cons_of_mem choice hother)
          rw [run_cons_of_some hfound]
          exact .afterRound hfound hchoice (ih hothers _)

section

variable {count : Nat} {log : List Log.Entry} {result : Repair × List Log.Entry}

theorem Mended.length_rounds (hmended : Mended alphabet label value count log result) :
    result.1.rounds.length =
      min (value.toList.countP fun c => ¬ alphabet.Contains c) count := by
  have hlength := congrArg List.length hmended.shown
  rw [List.length_map, List.length_map, List.length_take, Alphabet.length_outsiders,
    Nat.min_comm] at hlength
  exact hlength

theorem Mended.outsider?_last (hmended : Mended alphabet label value count log result) :
    result.1.last.outsider? = ((alphabet.outsiders value.toList).drop count).head? := by
  rw [hmended.checked _ (last_mem_reports _), Alphabet.outsider?_report, hmended.remaining]

theorem Mended.ne_empty (hmended : Mended alphabet label value count log result)
    (hvalue : value ≠ "") : result.1.last.value ≠ "" := by
  have hlength := hmended.kept result.1.last (last_mem_reports _)
  rw [ne_eq, ← String.length_eq_zero_iff] at hvalue ⊢
  rwa [hlength]

end

/-- What is left of a long name without outsiders when it is cut off. -/
theorem isValid_report_take {final : String} (hne : final ≠ "")
    (hnone : alphabet.outsiders final.toList = []) :
    (alphabet.report label (String.ofList (final.toList.take NameRule.maximum))).isValid =
      true := by
  have htake : final.toList.take NameRule.maximum ≠ [] := by
    rw [ne_eq, List.take_eq_nil_iff, not_or]
    refine ⟨by decide, ?_⟩
    rwa [String.toList_eq_nil_iff]
  rw [Alphabet.isValid_report_iff, String.toList_ofList, String.length_ofList]
  rw [Alphabet.outsiders_eq_nil_iff] at hnone ⊢
  refine ⟨?_, List.length_take_le _ _, ?_⟩
  · rwa [ne_eq, ← String.toList_eq_nil_iff, String.toList_ofList]
  · intro c hc
    exact hnone c (List.mem_of_mem_take hc)

/-- Repairing a name takes one round for each of its outsiders.  The reports show
them from left to right as they were, and say the same about the length all the
time.  What is left in the end is a valid name, unless it is too long, and then
its first characters are one.  Every check is logged. -/
theorem run_mends_name (alphabet : Alphabet) (label value : String) (choices : List Char)
    (log : List Log.Entry) (hvalue : value ≠ "")
    (hchoices : ∀ choice ∈ choices, alphabet.Contains choice) :
    let repair := ((run alphabet label choices value).run log).1
    let outside := value.toList.countP fun c => ¬ alphabet.Contains c
    repair.rounds.length = min outside choices.length ∧
    (repair.last.outsider? = none ↔ outside ≤ choices.length) ∧
    (∃ found : List (Char × Nat),
      repair.rounds.map Report.outsider? = found.map some ∧
      found.Pairwise (fun earlier later => earlier.2 < later.2) ∧
      ∀ c position, (c, position) ∈ found → value.toList[position]? = some c) ∧
    (∀ report ∈ repair.reports,
      report = alphabet.report label report.value ∧
      report.value.length = value.length ∧
      report.ofKind .tooLong = (alphabet.report label value).ofKind .tooLong) ∧
    (outside ≤ choices.length →
      (alphabet.report label
        (String.ofList (repair.last.value.toList.take 79))).isValid = true ∧
      (repair.last.ofKind .tooLong = [] → repair.last.isValid = true)) ∧
    ((run alphabet label choices value).run log).2 =
      log ++ repair.reports.map Report.entry := by
  intro repair outside
  have hmended : Mended alphabet label value choices.length log
      ((run alphabet label choices value).run log) := mended_run hchoices log
  have houtside : (alphabet.outsiders value.toList).length = outside :=
    alphabet.length_outsiders value.toList
  refine ⟨hmended.length_rounds, ?_, ?_, ?_, ?_, hmended.logged⟩
  · rw [hmended.outsider?_last, List.head?_eq_none_iff, List.drop_eq_nil_iff, houtside]
  · refine ⟨_, hmended.shown, ?_, ?_⟩
    · exact (alphabet.pairwise_position_outsiders value.toList).sublist (List.take_sublist _ _)
    · intro c position hfound
      exact (Alphabet.mem_outsiders_iff.mp (List.mem_of_mem_take hfound)).1
  · intro report hreport
    have hchecked := hmended.checked report hreport
    have hlength := hmended.kept report hreport
    refine ⟨hchecked, hlength, ?_⟩
    rw [hchecked, Alphabet.ofKind_report, Alphabet.ofKind_report, hlength]
  · intro hdone
    have hlast : repair.last = alphabet.report label repair.last.value :=
      hmended.checked repair.last (last_mem_reports _)
    have hnone : alphabet.outsiders repair.last.value.toList = [] := by
      rw [hmended.remaining, List.drop_eq_nil_iff, houtside]
      exact hdone
    have hne : repair.last.value ≠ "" := hmended.ne_empty hvalue
    refine ⟨isValid_report_take hne hnone, ?_⟩
    intro hshort
    rw [hlast, Alphabet.ofKind_report, NameRule.lengthViolations_eq_nil_iff] at hshort
    rw [hlast, Alphabet.isValid_report_iff]
    exact ⟨hne, hshort, hnone⟩

/-- A gallery name with a hyphen and an accented letter. -/
theorem run_mends_name_hyphen_and_accent :
    let repair := ((run .gallery "name" ['_', '.', 'x'] "a-bé").run []).1
    "a-bé" ≠ "" ∧ (∀ choice ∈ ['_', '.', 'x'], Alphabet.gallery.Contains choice) ∧
    repair.rounds.length = 2 ∧ repair.last.outsider? = none ∧
    repair.last.isValid = true := by
  intro repair
  have hvalue : "a-bé" ≠ "" := by decide
  have hchoices : ∀ choice ∈ ['_', '.', 'x'], Alphabet.gallery.Contains choice := by
    rw [List.forall_mem_cons, List.forall_mem_cons, List.forall_mem_singleton]
    decide
  have hmends := run_mends_name .gallery "name" "a-bé" ['_', '.', 'x'] [] hvalue hchoices
  have hcount : ("a-bé".toList.countP fun c => ¬ Alphabet.gallery.Contains c) = 2 := by decide
  have hdone : 2 ≤ ['_', '.', 'x'].length := by decide
  simp only [hcount] at hmends
  obtain ⟨hrounds, hlast, _, hreports, hvalid, _⟩ := hmends
  have hshort : repair.last.ofKind .tooLong = [] := by
    rw [(hreports repair.last (last_mem_reports _)).2.2]
    decide
  exact ⟨hvalue, hchoices, hrounds, hlast.mpr hdone, (hvalid hdone).2 hshort⟩

end Repair

end GalleryNaming
