import GalleryNaming.Resource
import Mathlib.Data.List.Forall2

/-!
# Runs of checks

A name is handed in at one of four places: the function for its resource, the
resource as a value, a validator that reports, or a validator that only accepts
or rejects.  Validators are not only those of the resources; a caller may bring
any label and any rules.

A run is a list of such calls in any order.  One call adds one entry at the end
of the log and answers from its own validator and name alone.  By induction on
the list, a run leaves the earlier log as it was, adds one entry for each call
in the order of the calls, and answers each call as if it were the only one.
-/

namespace GalleryNaming

namespace Report

theorem isValid_iff (report : Report) : report.isValid = true ↔ report.violations = [] :=
  List.isEmpty_iff

theorem entry_eq_accepted {report : Report} (hvalid : report.violations = []) :
    report.entry = .accepted report.label report.value := by
  rw [entry, if_pos (report.isValid_iff.mpr hvalid)]

theorem entry_eq_rejected {report : Report} (hbroken : report.violations ≠ []) :
    report.entry = .rejected report.label report.value report.violations.length := by
  rw [entry, if_neg]
  rwa [isValid_iff]

end Report

namespace Validator

/-- What is left of a check for a caller who does not ask for the report. -/
def verdict (validator : Validator) (value : String) : Except Rejection Unit :=
  (validator.report value).result.map fun _ => ()

theorem verdict_of_valid {validator : Validator} {value : String}
    (hvalid : validator.violations value = []) : validator.verdict value = .ok () := by
  have hreport : (validator.report value).isValid = true :=
    (validator.report value).isValid_iff.mpr hvalid
  rw [verdict, Report.result, if_pos hreport]
  rfl

theorem verdict_of_broken {validator : Validator} {value : String}
    (hbroken : validator.violations value ≠ []) :
    validator.verdict value = .error ⟨validator.label, validator.violations value⟩ := by
  have hreport : ¬ (validator.report value).isValid = true := by
    rw [Report.isValid_iff]
    exact hbroken
  rw [verdict, Report.result, if_neg hreport]
  rfl

theorem verdict_eq_ok_iff (validator : Validator) (value : String) :
    validator.verdict value = .ok () ↔ validator.violations value = [] := by
  by_cases hvalid : validator.violations value = []
  · simp [verdict_of_valid hvalid, hvalid]
  · simp [verdict_of_broken hvalid, hvalid]

theorem verdict_eq_error_iff (validator : Validator) (value : String)
    (rejection : Rejection) :
    validator.verdict value = .error rejection ↔
      validator.violations value ≠ [] ∧
        rejection = ⟨validator.label, validator.violations value⟩ := by
  by_cases hvalid : validator.violations value = []
  · simp [verdict_of_valid hvalid, hvalid]
  · simp [verdict_of_broken hvalid, hvalid, eq_comm]

end Validator

/-- One request to have a name checked. -/
inductive Call where
  /-- By the function that is named for the resource. -/
  | byFunction (resource : Resource) (value label : String)
  /-- By the resource as a value. -/
  | byResource (resource : Resource) (value label : String)
  /-- By a validator that reports. -/
  | check (validator : Validator) (value : String)
  /-- By a validator that accepts or rejects. -/
  | validate (validator : Validator) (value : String)

inductive Answer where
  | report (report : Report)
  | verdict (verdict : Except Rejection Unit)

namespace Call

def functionFor : Resource → String → String → Logged Report
  | .gallery => checkGalleryName
  | .image => checkImageName
  | .imageVersion => checkImageVersionName

def run : Call → Logged Answer
  | .byFunction resource value label => do
      return .report (← functionFor resource value label)
  | .byResource resource value label => do
      return .report (← resource.check value label)
  | .check validator value => do
      return .report (← validator.check value)
  | .validate validator value => do
      return .verdict (← validator.validate value)

def runAll : List Call → Logged (List Answer)
  | [] => return []
  | call :: calls => do
      let answer ← call.run
      let answers ← runAll calls
      return answer :: answers

/-- Whose rules apply to the name. -/
def validator : Call → Validator
  | .byFunction resource _ label => resource.validator label
  | .byResource resource _ label => resource.validator label
  | .check validator _ => validator
  | .validate validator _ => validator

def value : Call → String
  | .byFunction _ value _ => value
  | .byResource _ value _ => value
  | .check _ value => value
  | .validate _ value => value

def wantsReport : Call → Bool
  | .validate .. => false
  | _ => true

def violations (call : Call) : List Violation :=
  call.validator.violations call.value

/-- What the call answers when nothing was checked or logged before. -/
def alone (call : Call) : Answer :=
  (call.run.run []).1

/-- The line that the call owes to the log. -/
def Leaves (call : Call) (entry : Log.Entry) : Prop :=
  (call.violations = [] ↔
    entry.level = .trace ∧
      entry.message = "Accepted " ++ call.validator.label ++ " value " ++
        Text.quoteText call.value) ∧
  (call.violations ≠ [] ↔
    entry.level = .debug ∧
      entry.message = "Rejected " ++ call.validator.label ++ " value " ++
        Text.quoteText call.value ++ " with " ++ toString call.violations.length ++
        " violation(s)")

/-- A report repeats label, name and violations as they are.  A verdict accepts
exactly when there is no violation and otherwise carries the label and all of
them. -/
def Answered (call : Call) : Answer → Prop
  | .report report =>
      call.wantsReport = true ∧
        report = ⟨call.validator.label, call.value, call.violations⟩
  | .verdict verdict =>
      call.wantsReport = false ∧
        (verdict = .ok () ↔ call.violations = []) ∧
        ∀ rejection, verdict = .error rejection ↔
          call.violations ≠ [] ∧ rejection = ⟨call.validator.label, call.violations⟩

def report (call : Call) : Report :=
  call.validator.report call.value

def answer (call : Call) : Answer :=
  if call.wantsReport then .report call.report
  else .verdict (call.validator.verdict call.value)

/-- One call, whatever was logged before. -/
theorem run_run (call : Call) (log : List Log.Entry) :
    call.run.run log = (call.answer, log ++ [call.report.entry]) := by
  cases call with
  | byFunction resource value label => cases resource <;> rfl
  | byResource resource value label => cases resource <;> rfl
  | check validator value => rfl
  | validate validator value => rfl

theorem alone_eq_answer (call : Call) : call.alone = call.answer := by
  rw [alone, run_run]

/-- A whole run, whatever was logged before. -/
theorem run_runAll (calls : List Call) (log : List Log.Entry) :
    (runAll calls).run log =
      (calls.map answer, log ++ calls.map fun call => call.report.entry) := by
  induction calls generalizing log with
  | nil =>
      rw [List.map_nil, List.map_nil, List.append_nil]
      rfl
  | cons call calls ih =>
      have hstep : (runAll (call :: calls)).run log =
          ((call.run.run log).1 :: ((runAll calls).run (call.run.run log).2).1,
            ((runAll calls).run (call.run.run log).2).2) := rfl
      rw [hstep, run_run, ih]
      simp only [List.map_cons, List.append_assoc, List.singleton_append]

theorem leaves_entry (call : Call) : call.Leaves call.report.entry := by
  by_cases hvalid : call.violations = []
  · have hentry : call.report.entry = .accepted call.validator.label call.value :=
      Report.entry_eq_accepted hvalid
    simp [Leaves, hvalid, hentry, Log.Entry.level, Log.Entry.message]
  · have hentry : call.report.entry =
        .rejected call.validator.label call.value call.violations.length :=
      Report.entry_eq_rejected hvalid
    simp [Leaves, hvalid, hentry, Log.Entry.level, Log.Entry.message]

theorem answered_answer (call : Call) : call.Answered call.answer := by
  have hverdict : ∀ (validator : Validator) (value : String),
      (validate validator value).Answered (.verdict (validator.verdict value)) := by
    intro validator value
    exact ⟨rfl, validator.verdict_eq_ok_iff value, validator.verdict_eq_error_iff value⟩
  cases call with
  | byFunction resource value label => exact ⟨rfl, rfl⟩
  | byResource resource value label => exact ⟨rfl, rfl⟩
  | check validator value => exact ⟨rfl, rfl⟩
  | validate validator value => exact hverdict validator value

/-- Over a whole run, each call leaves one line and is answered faithfully and
without regard to the calls before it.  For one resource, label and name all four
ways of calling run the same check. -/
theorem runAll_logs_each_check_once (calls : List Call) (log : List Log.Entry) :
    (∃ entries,
      (runAll calls).run log = (calls.map alone, log ++ entries) ∧
      List.Forall₂ Leaves calls entries) ∧
    (∀ call : Call, call.Answered call.alone) ∧
    (∀ (resource : Resource) (value label : String) (before : List Log.Entry),
      ∃ report after,
        (byFunction resource value label).run.run before = (.report report, after) ∧
        (byResource resource value label).run.run before = (.report report, after) ∧
        (check (resource.validator label) value).run.run before =
          (.report report, after) ∧
        (validate (resource.validator label) value).run.run before =
          (.verdict (report.result.map fun _ => ()), after)) := by
  refine ⟨⟨calls.map fun call => call.report.entry, ?_, ?_⟩, ?_, ?_⟩
  · rw [run_runAll, funext alone_eq_answer]
  · rw [List.forall₂_map_right_iff, List.forall₂_same]
    intro call _
    exact call.leaves_entry
  · intro call
    rw [alone_eq_answer]
    exact call.answered_answer
  · intro resource value label before
    refine ⟨(resource.validator label).report value,
      before ++ [((resource.validator label).report value).entry], ?_⟩
    simp only [run_run]
    exact ⟨rfl, rfl, rfl, rfl⟩

end Call

end GalleryNaming
