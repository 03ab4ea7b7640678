import GalleryNaming.Report
import GalleryNaming.Proofs.JsonReading

/-!
# What programs receive

A report travels as one compact JSON object.  The decoders below accept the
objects of reports and violations and nothing else, and they say which member
carries which part.  Since a document is read back in front of any rest,
reports can follow one another without a separator, and no label, name or
character can break the frame of the object that carries it.
-/

namespace GalleryNaming

namespace Violation

def ofJson? : Json → Option Violation
  | .object [("kind", .text "empty_value"), ("field_name", .text label)] =>
      some (.emptyValue label)
  | .object [("kind", .text "too_long"), ("field_name", .text label),
      ("max_length", .nat maximum), ("actual_length", .nat actual)] =>
      some (.tooLong label maximum actual)
  | .object [("kind", .text "invalid_character"), ("field_name", .text label),
      ("character", .text character), ("position", .nat position),
      ("allowed", .text allowed)] =>
      (Text.single? character.toList).map fun c => .invalidCharacter label c position allowed
  | .object [("kind", .text "malformed_version_format"), ("field_name", .text label),
      ("value", .text value)] =>
      some (.malformedVersionFormat label value)
  | _ => none

@[simp] theorem ofJson?_toJson (violation : Violation) :
    ofJson? violation.toJson = some violation := by
  cases violation with
  | emptyValue label => rfl
  | tooLong label maximum actual => rfl
  | invalidCharacter label character position allowed =>
      simp [toJson, tag, details, Detail.toJson, ofJson?, Text.single?]
  | malformedVersionFormat label value => rfl

theorem tag_eq_tag_kind (violation : Violation) :
    violation.tag = violation.kind.tag := by
  cases violation <;> rfl

theorem compact_toJson_eq_kind (violation : Violation) :
    ∃ members, violation.toJson.compact =
      "\x7b\"kind\":" ++ violation.kind.toJson.compact ++ "," ++ members := by
  obtain ⟨first, others, hdetails⟩ :
      ∃ first others, violation.details = first :: others := by
    cases violation <;> exact ⟨_, _, rfl⟩
  have hkey : Json.textChars "kind" = ['\x22', 'k', 'i', 'n', 'd', '\x22'] := by decide
  let members := (first :: others).map fun detail => (detail.1, detail.2.toJson)
  refine ⟨String.ofList (Json.memberChars members ++ ['\x7d']), ?_⟩
  apply String.toList_inj.mp
  have hchars : violation.toJson.chars =
      '\x7b' :: (Json.textChars "kind" ++ ':' :: (violation.kind.toJson.chars ++
        ',' :: (Json.memberChars members ++ ['\x7d']))) := by
    simp [toJson, tag_eq_tag_kind, Kind.toJson, hdetails, Json.chars,
      Json.memberChars, members]
  rw [Json.toList_compact, hchars, hkey]
  simp

end Violation

namespace Report

def ofJson? : Json → Option Report
  | .object [("field_name", .text label), ("value", .text value),
      ("violations", .array items)] =>
      (items.mapM Violation.ofJson?).map fun violations => ⟨label, value, violations⟩
  | _ => none

theorem mapM_ofJson?_toJson (violations : List Violation) :
    (violations.map Violation.toJson).mapM Violation.ofJson? = some violations := by
  induction violations with
  | nil => rfl
  | cons violation violations ih =>
      rw [List.map_cons, List.mapM_cons, ih, Violation.ofJson?_toJson]
      rfl

theorem ofJson?_toJson (report : Report) : ofJson? report.toJson = some report := by
  simp only [toJson, ofJson?, mapM_ofJson?_toJson, Option.map_some]

theorem read_compact (report : Report) (rest : String) :
    Json.read (report.toJson.compact ++ rest).toList =
      some (report.toJson, rest.toList) := by
  rw [String.toList_append, Json.toList_compact]
  apply Json.read_chars
  intro n hnat
  cases hnat

theorem compact_toJson_injective {report other : Report}
    (heq : report.toJson.compact = other.toJson.compact) : report = other := by
  have hreport := read_compact report ""
  have hother := read_compact other ""
  rw [heq, hother] at hreport
  have hjson : other.toJson = report.toJson := by
    simpa using congrArg (Option.map Prod.fst) hreport
  have hdecoded := ofJson?_toJson other
  rw [hjson, ofJson?_toJson] at hdecoded
  exact Option.some.inj hdecoded

/-- Reports travel without loss.  A report is read back in front of any rest, its
text is free of controls and tells each violation's kind by its first member, and
no two reports share a text. -/
theorem compact_lossless (report : Report) (rest : String) :
    (∃ document items,
      Json.read (report.toJson.compact ++ rest).toList =
        some (document, rest.toList) ∧
      document = .object
        [("field_name", .text report.label), ("value", .text report.value),
          ("violations", .array items)] ∧
      items = report.violations.map Violation.toJson ∧
      ofJson? document = some report) ∧
    (∀ c ∈ report.toJson.compact.toList, 0x20 ≤ c.toNat) ∧
    (∀ violation ∈ report.violations, ∃ members,
      violation.toJson.compact =
        "\x7b\"kind\":" ++ violation.kind.toJson.compact ++ "," ++ members) ∧
    (∀ other : Report, report.toJson.compact = other.toJson.compact ↔ report = other) := by
  refine ⟨⟨_, _, report.read_compact rest, rfl, rfl, report.ofJson?_toJson⟩, ?_, ?_, ?_⟩
  · intro c hc
    rw [Json.toList_compact] at hc
    exact Json.not_control_of_mem_chars hc
  · intro violation _
    exact violation.compact_toJson_eq_kind
  · intro other
    constructor
    · exact compact_toJson_injective
    · rintro rfl
      rfl

end Report

end GalleryNaming
