import GalleryNaming.Report

/-!
# Validators and the log of decisions

A validator is bound to the label of one field and lists the rules that a
name breaks, always in the same order.  Whatever its rules are, checking a
name reports on it and logs the decision once; validating a name is checking
it and keeping only whether it was rejected.

Accepted names are of interest only when tracing; rejected ones are logged for
debugging, with the number of rules they break.  A computation that checks names
is `Logged`: it carries the log along and adds its entries at the end.
-/

namespace GalleryNaming

/-! ## The log -/

namespace Log

inductive Level where
  | trace
  | debug
deriving DecidableEq

def Level.name : Level → String
  | .trace => "TRACE"
  | .debug => "DEBUG"

/-- The decision on one name under the label of its field. -/
inductive Entry where
  | accepted (label value : String)
  | rejected (label value : String) (count : Nat)
deriving DecidableEq

/-- The channel on which all entries are sent. -/
def target : String :=
  "validators::validation"

def Entry.level : Entry → Level
  | .accepted .. => .trace
  | .rejected .. => .debug

/-- The line that is logged.  The name is quoted, the label is not. -/
def Entry.message : Entry → String
  | .accepted label value =>
      "Accepted " ++ label ++ " value " ++ Text.quoteText value
  | .rejected label value count =>
      "Rejected " ++ label ++ " value " ++ Text.quoteText value ++ " with " ++
        toString count ++ " violation(s)"

end Log

abbrev Logged (α : Type) : Type :=
  StateM (List Log.Entry) α

namespace Logged

def emit (entry : Log.Entry) : Logged Unit :=
  modify (· ++ [entry])

@[simp] theorem run_emit (entry : Log.Entry) (log : List Log.Entry) :
    (emit entry).run log = ((), log ++ [entry]) := rfl

end Logged

/-! ## Validators -/

structure Validator where
  label : String
  /-- Every rule that the name breaks.  None means that it is valid. -/
  violations : String → List Violation

/-- The log entry that a report leaves behind. -/
def Report.entry (report : Report) : Log.Entry :=
  if report.isValid then .accepted report.label report.value
  else .rejected report.label report.value report.violations.length

namespace Validator

def report (validator : Validator) (value : String) : Report :=
  ⟨validator.label, value, validator.violations value⟩

def check (validator : Validator) (value : String) : Logged Report := do
  let report := validator.report value
  Logged.emit report.entry
  return report

def validate (validator : Validator) (value : String) :
    Logged (Except Rejection Unit) := do
  let report ← validator.check value
  return report.result.map fun _ => ()

@[simp] theorem run_check (validator : Validator) (value : String)
    (log : List Log.Entry) :
    (validator.check value).run log =
      (validator.report value, log ++ [(validator.report value).entry]) := rfl

@[simp] theorem run_validate (validator : Validator) (value : String)
    (log : List Log.Entry) :
    (validator.validate value).run log =
      ((validator.report value).result.map fun _ => (),
        log ++ [(validator.report value).entry]) := rfl

end Validator

end GalleryNaming
