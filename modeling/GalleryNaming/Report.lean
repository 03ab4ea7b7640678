import GalleryNaming.Violation

/-!
# Reports on one checked name

A report echoes the name as it was given, unchanged, and lists the rules it
breaks.  The name is valid when the list is empty.  Otherwise the caller receives
a rejection in place of the name: the label of the field and every broken rule in
the order in which the rules are checked.
-/

namespace GalleryNaming

/-! ## Rejections -/

structure Rejection where
  label : String
  violations : List Violation
deriving DecidableEq

namespace Rejection

def kinds (rejection : Rejection) : List Violation.Kind :=
  rejection.violations.map Violation.kind

/-- All messages in one line, with a semicolon between neighbours. -/
def message (rejection : Rejection) : String :=
  "invalid " ++ rejection.label ++ ": " ++
    "; ".intercalate (rejection.violations.map Violation.message)

def toDump (rejection : Rejection) : Dump :=
  .record "ValidationFailure"
    [("field_name", .text rejection.label),
      ("violations", .list (rejection.violations.map Violation.toDump))]

end Rejection

/-! ## Reports -/

structure Report where
  label : String
  value : String
  violations : List Violation
deriving DecidableEq

namespace Report

def isValid (report : Report) : Bool :=
  report.violations.isEmpty

def messages (report : Report) : List String :=
  report.violations.map Violation.message

def parts (report : Report) : String × List String :=
  (report.value, report.messages)

/-- A valid name goes through; any other is rejected with every violation. -/
def result (report : Report) : Except Rejection String :=
  if report.isValid then .ok report.value
  else .error ⟨report.label, report.violations⟩

def toDump (report : Report) : Dump :=
  .record "ValidationOutcome"
    [("field_name", .text report.label), ("value", .text report.value),
      ("violations", .list (report.violations.map Violation.toDump))]

def toJson (report : Report) : Json :=
  .object
    [("field_name", .text report.label), ("value", .text report.value),
      ("violations", .array (report.violations.map Violation.toJson))]

end Report

end GalleryNaming
