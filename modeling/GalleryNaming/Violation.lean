import GalleryNaming.Dump
import GalleryNaming.Json

/-!
# Broken naming rules

A violation says which rule a candidate name breaks and carries what a reader
needs to mend it, beginning with the label of the field that held the name.
It has three renderings: a message for people, a dump for diagnostics and a
JSON object for programs.  The kind alone names the rule.
-/

namespace GalleryNaming

inductive Violation where
  /-- The name is the empty text. -/
  | emptyValue (label : String)
  /-- The name has more characters than allowed. -/
  | tooLong (label : String) (maximum actual : Nat)
  /-- The first character outside the allowed ones and how many precede it. -/
  | invalidCharacter (label : String) (character : Char) (position : Nat)
      (allowed : String)
  /-- The name is not a version of numeric components. -/
  | malformedVersionFormat (label value : String)
deriving DecidableEq

namespace Violation

inductive Kind where
  | emptyValue
  | tooLong
  | invalidCharacter
  | malformedVersionFormat
deriving DecidableEq

/-- The record name of a kind in dumps. -/
def Kind.name : Kind → String
  | .emptyValue => "EmptyValue"
  | .tooLong => "TooLong"
  | .invalidCharacter => "InvalidCharacter"
  | .malformedVersionFormat => "MalformedVersionFormat"

/-- The name of a kind in JSON. -/
def Kind.tag : Kind → String
  | .emptyValue => "empty_value"
  | .tooLong => "too_long"
  | .invalidCharacter => "invalid_character"
  | .malformedVersionFormat => "malformed_version_format"

def Kind.toDump (kind : Kind) : Dump :=
  .record kind.name []

def Kind.toJson (kind : Kind) : Json :=
  .text kind.tag

def kind : Violation → Kind
  | .emptyValue _ => .emptyValue
  | .tooLong .. => .tooLong
  | .invalidCharacter .. => .invalidCharacter
  | .malformedVersionFormat .. => .malformedVersionFormat

inductive Detail where
  | text (value : String)
  | char (value : Char)
  | nat (value : Nat)

def Detail.toDump : Detail → Dump
  | .text value => .text value
  | .char value => .char value
  | .nat value => .nat value

/-- JSON has no characters of its own: one is a text of length one. -/
def Detail.toJson : Detail → Json
  | .text value => .text value
  | .char value => .text (String.singleton value)
  | .nat value => .nat value

def label : Violation → String
  | .emptyValue label => label
  | .tooLong label _ _ => label
  | .invalidCharacter label _ _ _ => label
  | .malformedVersionFormat label _ => label

/-- What a message says after the label.  Characters and versions come from
the checked name and are quoted; the label and the list of allowed characters
come from the program and are not. -/
def complaint : Violation → String
  | .emptyValue _ => " cannot be empty"
  | .tooLong _ maximum actual =>
      " is too long (" ++ toString actual ++ " characters, maximum " ++
        toString maximum ++ ")"
  | .invalidCharacter _ character position allowed =>
      " contains invalid character " ++ Text.quoteChar character ++
        " at position " ++ toString position ++ ", only " ++ allowed ++
        " are allowed"
  | .malformedVersionFormat _ value =>
      " must be in major.minor.patch format with numeric components, got " ++
        Text.quoteText value

def message (violation : Violation) : String :=
  violation.label ++ violation.complaint

/-- The parts of a violation by name, the label first.  Both structured forms
list them in this order. -/
def details : Violation → List (String × Detail)
  | .emptyValue label => [("field_name", .text label)]
  | .tooLong label maximum actual =>
      [("field_name", .text label), ("max_length", .nat maximum),
        ("actual_length", .nat actual)]
  | .invalidCharacter label character position allowed =>
      [("field_name", .text label), ("character", .char character),
        ("position", .nat position), ("allowed", .text allowed)]
  | .malformedVersionFormat label value =>
      [("field_name", .text label), ("value", .text value)]

def toDump (violation : Violation) : Dump :=
  .record violation.kind.name
    (violation.details.map fun (name, detail) => (name, detail.toDump))

/-- What the object of a violation is tagged with. -/
def tag : Violation → String
  | .emptyValue _ => "empty_value"
  | .tooLong .. => "too_long"
  | .invalidCharacter .. => "invalid_character"
  | .malformedVersionFormat .. => "malformed_version_format"

/-- The object begins with the tag, so that a reader knows which members
follow. -/
def toJson (violation : Violation) : Json :=
  .object (("kind", .text violation.tag) ::
    violation.details.map fun (name, detail) => (name, detail.toJson))

end Violation

end GalleryNaming
