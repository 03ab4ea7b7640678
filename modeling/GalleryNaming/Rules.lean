import GalleryNaming.Text.Pattern
import GalleryNaming.Validator

/-!
# Naming rules

A name of a gallery or an image has between 1 and 79 characters, all from the
alphabet of its resource.  An empty name breaks one rule only.  Any other name may
be too long and may contain a character outside the alphabet; the first such
character is reported with the number of characters before it.

A version of an image is three runs of ASCII digits with dots between them.
Leading zeros are allowed and no component is too large.  An empty name is reported
as such, any other name that is no version as malformed.
-/

namespace GalleryNaming

/-! ## Names of galleries and images -/

inductive Alphabet where
  | gallery
  | image
deriving DecidableEq

namespace Alphabet

/-- Letters and digits are those of ASCII.  Only image names may have
hyphens. -/
def allows (alphabet : Alphabet) (c : Char) : Bool :=
  c.isAlphanum || c = '.' || c = '_' || (c = '-' && alphabet = .image)

def description : Alphabet → String
  | .gallery => "letters, digits, '.' and '_'"
  | .image => "letters, digits, '.', '_' and '-'"

/-- The first character outside the alphabet and how many precede it. -/
def firstOutside (alphabet : Alphabet) (cs : List Char) : Option (Char × Nat) :=
  (cs.dropWhile alphabet.allows).head?.map fun c =>
    (c, (cs.takeWhile alphabet.allows).length)

end Alphabet

structure NameRule where
  alphabet : Alphabet
  /-- How long a name is. -/
  measure : String → Nat := String.length

namespace NameRule

def gallery : NameRule where
  alphabet := .gallery

def image : NameRule where
  alphabet := .image

def minimum : Nat := 1

def maximum : Nat := 79

def lengthViolations (label : String) (length : Nat) : List Violation :=
  if maximum < length then [.tooLong label maximum length] else []

def characterViolations (alphabet : Alphabet) (label value : String) :
    List Violation :=
  match alphabet.firstOutside value.toList with
  | some (character, position) =>
      [.invalidCharacter label character position alphabet.description]
  | none => []

def violations (rule : NameRule) (label value : String) : List Violation :=
  if rule.measure value < minimum then [.emptyValue label]
  else
    lengthViolations label (rule.measure value) ++
      characterViolations rule.alphabet label value

def validator (rule : NameRule) (label : String) : Validator where
  label := label
  violations := rule.violations label

end NameRule

/-! ## Names of image versions -/

namespace VersionRule

open Text

def componentCount : Nat := 3

def component : Pattern :=
  .run Char.isDigit

def dot : Pattern :=
  .char (· = '.')

/-- One component, and a dot before each of the others, from the start of the
text to its end. -/
def pattern : Pattern :=
  .andThen .textStart
    (.andThen component
      (.andThen (.times (componentCount - 1) (.andThen dot component)) .textEnd))

def violations (label value : String) : List Violation :=
  if value = "" then [.emptyValue label]
  else if pattern.occursIn value.toList then []
  else [.malformedVersionFormat label value]

def validator (label : String) : Validator where
  label := label
  violations := violations label

end VersionRule

end GalleryNaming
