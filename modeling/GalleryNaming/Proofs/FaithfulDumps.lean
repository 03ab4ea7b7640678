import GalleryNaming.Report
import GalleryNaming.Proofs.DumpReading

/-!
# What diagnostics tell

Violations, rejections and reports are dumped as records with named fields, and
each of them is rebuilt from its record.  Together with the reader this makes a
dump as good as the value: it can be read back in front of any text, and two
values with the same dump are the same.  A codec carries the laws that this needs,
so the argument is made once.
-/

namespace GalleryNaming

namespace Dump

theorem Named.of_fields
    {name : String} {fields : List (String × Dump)} (hname : IsName name)
    (hfields : ∀ field ∈ fields, IsName field.1 ∧ Named field.2) :
    Named (.record name fields) :=
  .record name fields hname (fun field hmem => (hfields field hmem).1)
    fun field hmem => (hfields field hmem).2

/-- Values that are rebuilt from their dumps, where no dump has an open end. -/
structure Codec (α : Type) where
  toDump : α → Dump
  ofDump? : Dump → Option α
  ofDump?_toDump : ∀ value, ofDump? (toDump value) = some value
  named : ∀ value, (toDump value).Named
  ends : ∀ value rest, (toDump value).Ends rest

namespace Codec

variable {α : Type} (codec : Codec α)

/-- Reads the value in front of a text. -/
def read (text : String) : Option (α × String) :=
  (Dump.read text.toList).bind fun found =>
    (codec.ofDump? found.1).map fun value => (value, String.ofList found.2)

theorem read_line (value : α) (rest : String) :
    codec.read ((codec.toDump value).line ++ rest) = some (value, rest) := by
  have hread := read_chars (codec.named value) (codec.ends value rest.toList)
  rw [read, String.toList_append, toList_line, hread, Option.bind_some,
    codec.ofDump?_toDump, Option.map_some, String.ofList_toList]

theorem line_eq_iff (value other : α) :
    (codec.toDump value).line = (codec.toDump other).line ↔ value = other := by
  constructor
  · intro hline
    have hread := codec.read_line value ""
    rw [hline, codec.read_line] at hread
    simpa using hread.symm
  · rintro rfl
    rfl

/-- Rebuilds all items of a list or none. -/
def ofItems? : Dump → Option (List α)
  | .list items => items.mapM codec.ofDump?
  | _ => none

theorem ofItems?_map (values : List α) :
    codec.ofItems? (.list (values.map codec.toDump)) = some values := by
  rw [ofItems?]
  induction values with
  | nil => rfl
  | cons value values ih =>
      rw [List.map_cons, List.mapM_cons, codec.ofDump?_toDump, ih]
      rfl

/-- A list is dumped item by item. -/
def list : Codec (List α) where
  toDump := fun values => .list (values.map codec.toDump)
  ofDump? := codec.ofItems?
  ofDump?_toDump := codec.ofItems?_map
  named := by
    intro values
    apply Named.list
    intro item hmem
    obtain ⟨value, _, rfl⟩ := List.mem_map.mp hmem
    exact codec.named value
  ends := fun _ _ => trivial

end Codec

end Dump

namespace Violation

def ofDump? : Dump → Option Violation
  | .record "EmptyValue" [("field_name", .text label)] => some (.emptyValue label)
  | .record "TooLong" [("field_name", .text label), ("max_length", .nat maximum),
      ("actual_length", .nat actual)] => some (.tooLong label maximum actual)
  | .record "InvalidCharacter" [("field_name", .text label),
      ("character", .char character), ("position", .nat position),
      ("allowed", .text allowed)] =>
      some (.invalidCharacter label character position allowed)
  | .record "MalformedVersionFormat" [("field_name", .text label),
      ("value", .text value)] => some (.malformedVersionFormat label value)
  | _ => none

theorem ofDump?_toDump (violation : Violation) :
    ofDump? violation.toDump = some violation := by
  cases violation <;> rfl

theorem Kind.isName_name (kind : Kind) : Dump.IsName kind.name := by
  cases kind <;> decide

theorem isName_of_mem_details {violation : Violation} {detail : String × Detail}
    (hmem : detail ∈ violation.details) : Dump.IsName detail.1 := by
  have hkeys : ∀ key ∈ violation.details.map Prod.fst, Dump.IsName key := by
    cases violation <;>
      simp only [details, List.map_cons, List.map_nil] <;> decide
  exact hkeys detail.1 (List.mem_map_of_mem hmem)

theorem Detail.named_toDump (detail : Detail) : detail.toDump.Named := by
  cases detail with
  | text value => exact .text value
  | char value => exact .char value
  | nat value => exact .nat value

theorem named_toDump (violation : Violation) : violation.toDump.Named := by
  apply Dump.Named.of_fields violation.kind.isName_name
  intro field hmem
  obtain ⟨detail, hdetail, rfl⟩ := List.mem_map.mp hmem
  exact ⟨isName_of_mem_details hdetail, detail.2.named_toDump⟩

theorem ends_toDump (violation : Violation) (rest : List Char) :
    violation.toDump.Ends rest := by
  cases violation <;> trivial

def dumpCodec : Dump.Codec Violation where
  toDump := toDump
  ofDump? := ofDump?
  ofDump?_toDump := ofDump?_toDump
  named := named_toDump
  ends := ends_toDump

end Violation

namespace Rejection

def ofDump? : Dump → Option Rejection
  | .record "ValidationFailure" [("field_name", .text label), ("violations", items)] =>
      (Violation.dumpCodec.list.ofDump? items).map fun violations => ⟨label, violations⟩
  | _ => none

theorem ofDump?_toDump (rejection : Rejection) :
    ofDump? rejection.toDump = some rejection := by
  have hitems : Violation.dumpCodec.list.ofDump?
      (.list (rejection.violations.map Violation.toDump)) = some rejection.violations :=
    Violation.dumpCodec.list.ofDump?_toDump rejection.violations
  simp only [toDump, ofDump?, hitems, Option.map_some]

theorem named_toDump (rejection : Rejection) : rejection.toDump.Named := by
  have hlabel : Dump.IsName "field_name" := by decide
  have hviolations : Dump.IsName "violations" := by decide
  apply Dump.Named.of_fields (by decide)
  intro field hmem
  simp only [List.mem_cons, List.not_mem_nil, or_false] at hmem
  rcases hmem with rfl | rfl
  · exact ⟨hlabel, .text rejection.label⟩
  · exact ⟨hviolations, Violation.dumpCodec.list.named rejection.violations⟩

def dumpCodec : Dump.Codec Rejection where
  toDump := toDump
  ofDump? := ofDump?
  ofDump?_toDump := ofDump?_toDump
  named := named_toDump
  ends := fun _ _ => trivial

end Rejection

namespace Report

def ofDump? : Dump → Option Report
  | .record "ValidationOutcome"
      [("field_name", .text label), ("value", .text value), ("violations", items)] =>
      (Violation.dumpCodec.list.ofDump? items).map fun violations =>
        ⟨label, value, violations⟩
  | _ => none

theorem ofDump?_toDump (report : Report) : ofDump? report.toDump = some report := by
  have hitems : Violation.dumpCodec.list.ofDump?
      (.list (report.violations.map Violation.toDump)) = some report.violations :=
    Violation.dumpCodec.list.ofDump?_toDump report.violations
  simp only [toDump, ofDump?, hitems, Option.map_some]

theorem named_toDump (report : Report) : report.toDump.Named := by
  have hlabel : Dump.IsName "field_name" := by decide
  have hvalue : Dump.IsName "value" := by decide
  have hviolations : Dump.IsName "violations" := by decide
  apply Dump.Named.of_fields (by decide)
  intro field hmem
  simp only [List.mem_cons, List.not_mem_nil, or_false] at hmem
  rcases hmem with rfl | rfl | rfl
  · exact ⟨hlabel, .text report.label⟩
  · exact ⟨hvalue, .text report.value⟩
  · exact ⟨hviolations, Violation.dumpCodec.list.named report.violations⟩

def dumpCodec : Dump.Codec Report where
  toDump := toDump
  ofDump? := ofDump?
  ofDump?_toDump := ofDump?_toDump
  named := named_toDump
  ends := fun _ _ => trivial

end Report

/-- Whatever stands behind a dump, the dumped value is read back and nothing more
is taken; so two values with the same dump are the same. -/
theorem dumps_lossless (rest : String) :
    (∀ violation other : Violation,
      Violation.dumpCodec.read (violation.toDump.line ++ rest) = some (violation, rest) ∧
        (violation.toDump.line = other.toDump.line ↔ violation = other)) ∧
    (∀ rejection other : Rejection,
      Rejection.dumpCodec.read (rejection.toDump.line ++ rest) = some (rejection, rest) ∧
        (rejection.toDump.line = other.toDump.line ↔ rejection = other)) ∧
    (∀ report other : Report,
      Report.dumpCodec.read (report.toDump.line ++ rest) = some (report, rest) ∧
        (report.toDump.line = other.toDump.line ↔ report = other)) := by
  refine ⟨?_, ?_, ?_⟩
  · intro violation other
    exact ⟨Violation.dumpCodec.read_line violation rest,
      Violation.dumpCodec.line_eq_iff violation other⟩
  · intro rejection other
    exact ⟨Rejection.dumpCodec.read_line rejection rest,
      Rejection.dumpCodec.line_eq_iff rejection other⟩
  · intro report other
    exact ⟨Report.dumpCodec.read_line report rest,
      Report.dumpCodec.line_eq_iff report other⟩

end GalleryNaming
