import GalleryNaming.Report
import GalleryNaming.Proofs.QuotedReading
import Mathlib.Data.List.Infix

/-!
# Reading a message from its end

A message begins with a label, which may contain anything, a whole message
included.  What follows the label is put together from fixed words, numbers,
quotations and the list of allowed characters, so a message is read from its
end: the last character tells the kind, and each part is taken off in turn.
Only the list of allowed characters stands there as it is.  It is found as long
as it does not repeat the words that announce it.
-/

namespace GalleryNaming.Text

/-- Splits a text around the last place where a mark stands. -/
def splitLast (mark : List Char) : List Char → Option (List Char × List Char)
  | [] => none
  | c :: cs =>
      match splitLast mark cs with
      | some (before, after) => some (c :: before, after)
      | none => ((c :: cs).dropPrefix? mark).map fun after => ([], after)

theorem splitLast_eq_none {mark cs : List Char} (hcs : ¬ mark <:+: cs) :
    splitLast mark cs = none := by
  induction cs with
  | nil => rfl
  | cons c cs ih =>
      rw [List.infix_cons_iff, not_or] at hcs
      have hstart : (c :: cs).dropPrefix? mark = none := by
        rw [Option.eq_none_iff_forall_ne_some]
        intro rest hrest
        obtain ⟨start, hsplit, hmark⟩ := List.dropPrefix?_eq_some_iff.mp hrest
        exact hcs.1 ⟨rest, by rw [hsplit, eq_of_beq hmark]⟩
      rw [splitLast, ih hcs.2, hstart]
      rfl

/-- A mark cannot begin inside itself when its first character does not come
back in it. -/
theorem splitLast_part_append
    {first : Char} {others part after : List Char} (hpart : first ∉ part)
    (hafter : ¬ first :: others <:+: after) :
    splitLast (first :: others) (part ++ after) = none := by
  apply splitLast_eq_none
  induction part with
  | nil => exact hafter
  | cons c part ih =>
      simp only [List.mem_cons, not_or] at hpart
      rw [List.cons_append, List.infix_cons_iff, not_or]
      refine ⟨?_, ih hpart.2⟩
      intro hprefix
      exact hpart.1 (List.cons_prefix_cons.mp hprefix).1

theorem splitLast_append
    {first : Char} {others after : List Char} (hfirst : first ∉ others)
    (hafter : ¬ first :: others <:+: after) (before : List Char) :
    splitLast (first :: others) (before ++ first :: (others ++ after)) =
      some (before, after) := by
  have hstart : (first :: (others ++ after)).dropPrefix? (first :: others) =
      some after := by
    exact dropPrefix?_append (first :: others) after
  induction before with
  | nil =>
      rw [List.nil_append, splitLast, splitLast_part_append hfirst hafter, hstart]
      rfl
  | cons c before ih => rw [List.cons_append, splitLast, ih]

end GalleryNaming.Text

namespace GalleryNaming.Violation

open Text

/-- The list of allowed characters does not contain the words before it. -/
def PlainAllowed : Violation → Prop
  | .invalidCharacter _ _ _ allowed => ¬ ", only ".toList <:+: allowed.toList
  | _ => True

instance : (violation : Violation) → Decidable violation.PlainAllowed
  | .emptyValue _ => isTrue trivial
  | .tooLong .. => isTrue trivial
  | .invalidCharacter _ _ _ allowed =>
      inferInstanceAs (Decidable (¬ ", only ".toList <:+: allowed.toList))
  | .malformedVersionFormat .. => isTrue trivial

/-- The same rule broken in the same way, under another label. -/
def withLabel (label : String) : Violation → Violation
  | .emptyValue _ => .emptyValue label
  | .tooLong _ maximum actual => .tooLong label maximum actual
  | .invalidCharacter _ character position allowed =>
      .invalidCharacter label character position allowed
  | .malformedVersionFormat _ value => .malformedVersionFormat label value

@[simp] theorem label_withLabel (label : String) (violation : Violation) :
    (violation.withLabel label).label = label := by
  cases violation <;> rfl

@[simp] theorem complaint_withLabel (label : String) (violation : Violation) :
    (violation.withLabel label).complaint = violation.complaint := by
  cases violation <;> rfl

@[simp] theorem withLabel_label (violation : Violation) :
    violation.withLabel violation.label = violation := by
  cases violation <;> rfl

@[simp] theorem withLabel_withLabel (label other : String) (violation : Violation) :
    (violation.withLabel other).withLabel label = violation.withLabel label := by
  cases violation <;> rfl

theorem plainAllowed_withLabel {label : String} {violation : Violation} :
    (violation.withLabel label).PlainAllowed ↔ violation.PlainAllowed := by
  cases violation <;> rfl

/-- Whatever stands before a message can be counted to its label. -/
theorem append_message (before : String) (violation : Violation) :
    before ++ violation.message =
      (violation.withLabel (before ++ violation.label)).message := by
  simp only [message, label_withLabel, complaint_withLabel, String.append_assoc]

/-! ## The four readers -/

def readEmptyValue (cs : List Char) : Option Violation :=
  (cs.dropSuffix? " cannot be empty".toList).map fun label =>
    .emptyValue (String.ofList label)

def readTooLong (cs : List Char) : Option Violation :=
  (cs.dropSuffix? ")".toList).bind fun counted =>
    (lastDecimal counted).bind fun maximum =>
      (maximum.1.dropSuffix? " characters, maximum ".toList).bind fun counted =>
        (lastDecimal counted).bind fun actual =>
          (actual.1.dropSuffix? " is too long (".toList).map fun label =>
            .tooLong (String.ofList label) maximum.2 actual.2

def readPlaced (cs : List Char) : Option (String × Char × Nat) :=
  (lastDecimal cs).bind fun position =>
    (position.1.dropSuffix? " at position ".toList).bind fun placed =>
      match lastQuoted '\x27' placed with
      | some (before, [character]) =>
          (before.dropSuffix? " contains invalid character ".toList).map fun label =>
            (String.ofList label, character, position.2)
      | _ => none

def readInvalidCharacter (cs : List Char) : Option Violation :=
  (cs.dropSuffix? " are allowed".toList).bind fun listed =>
    (splitLast ", only ".toList listed).bind fun parts =>
      (readPlaced parts.1).map fun placed =>
        .invalidCharacter placed.1 placed.2.1 placed.2.2 (String.ofList parts.2)

def readMalformedVersionFormat (cs : List Char) : Option Violation :=
  (lastQuoted '\x22' cs).bind fun quotation =>
    (quotation.1.dropSuffix?
      " must be in major.minor.patch format with numeric components, got ".toList).map
        fun label =>
          .malformedVersionFormat (String.ofList label) (String.ofList quotation.2)

/-- No two kinds of message end in the same character. -/
def Kind.ending : Kind → Char
  | .emptyValue => 'y'
  | .tooLong => ')'
  | .invalidCharacter => 'd'
  | .malformedVersionFormat => '\x22'

def kindOfEnding? (c : Char) : Option Kind :=
  [.emptyValue, .tooLong, .invalidCharacter, .malformedVersionFormat].find? fun kind =>
    Kind.ending kind = c

def readKind : Kind → List Char → Option Violation
  | .emptyValue => readEmptyValue
  | .tooLong => readTooLong
  | .invalidCharacter => readInvalidCharacter
  | .malformedVersionFormat => readMalformedVersionFormat

def readMessage (message : String) : Option Violation :=
  (message.toList.getLast?.bind kindOfEnding?).bind fun kind =>
    readKind kind message.toList

theorem kindOfEnding?_ending (kind : Kind) : kindOfEnding? kind.ending = some kind := by
  cases kind <;> decide

/-! ## Reading what was written -/

def messageChars : Violation → List Char
  | .emptyValue label => label.toList ++ " cannot be empty".toList
  | .tooLong label maximum actual =>
      label.toList ++ " is too long (".toList ++ Nat.toDigits 10 actual ++
        " characters, maximum ".toList ++ Nat.toDigits 10 maximum ++ ")".toList
  | .invalidCharacter label character position allowed =>
      label.toList ++ " contains invalid character ".toList ++
        enclose '\x27' [character] ++ " at position ".toList ++
        Nat.toDigits 10 position ++ ", only ".toList ++ allowed.toList ++
        " are allowed".toList
  | .malformedVersionFormat label value =>
      label.toList ++
        " must be in major.minor.patch format with numeric components, got ".toList ++
        enclose '\x22' value.toList

theorem toList_message (violation : Violation) :
    violation.message.toList = violation.messageChars := by
  cases violation with
  | emptyValue label =>
      have hmessage : (emptyValue label).message = label ++ " cannot be empty" := rfl
      rw [hmessage, String.toList_append, messageChars]
  | tooLong label maximum actual =>
      have hmessage : (tooLong label maximum actual).message =
          label ++ (" is too long (" ++ toString actual ++ " characters, maximum " ++
            toString maximum ++ ")") := rfl
      simp only [hmessage, messageChars, String.toList_append, Nat.toString_eq_repr,
        Nat.toList_repr, List.append_assoc]
  | invalidCharacter label character position allowed =>
      have hmessage : (invalidCharacter label character position allowed).message =
          label ++ (" contains invalid character " ++ quoteChar character ++
            " at position " ++ toString position ++ ", only " ++ allowed ++
            " are allowed") := rfl
      simp only [hmessage, messageChars, String.toList_append, toList_quoteChar,
        Nat.toString_eq_repr, Nat.toList_repr, List.append_assoc]
  | malformedVersionFormat label value =>
      have hmessage : (malformedVersionFormat label value).message =
          label ++ (" must be in major.minor.patch format with numeric components, got " ++
            quoteText value) := rfl
      simp only [hmessage, messageChars, String.toList_append, toList_quoteText,
        List.append_assoc]

theorem getLast?_messageChars (violation : Violation) :
    violation.messageChars.getLast? = some violation.kind.ending := by
  cases violation with
  | emptyValue label =>
      rw [kind, Kind.ending, messageChars]
      exact getLast?_append_words (by decide) _
  | tooLong label maximum actual =>
      rw [kind, Kind.ending, messageChars]
      exact getLast?_append_words (by decide) _
  | invalidCharacter label character position allowed =>
      rw [kind, Kind.ending, messageChars]
      exact getLast?_append_words (by decide) _
  | malformedVersionFormat label value =>
      rw [kind, Kind.ending, messageChars]
      apply getLast?_append_words
      rw [enclose, ← List.cons_append]
      exact List.getLast?_concat

theorem readEmptyValue_chars (label : String) :
    readEmptyValue (emptyValue label).messageChars = some (.emptyValue label) := by
  simp only [readEmptyValue, messageChars, dropSuffix?_append, Option.map_some,
    String.ofList_toList]

theorem readTooLong_chars (label : String) (maximum actual : Nat) :
    readTooLong (tooLong label maximum actual).messageChars =
      some (.tooLong label maximum actual) := by
  simp only [readTooLong, messageChars, dropSuffix?_append, Option.bind_some,
    lastDecimal_after " characters, maximum ".toList (by decide),
    lastDecimal_after " is too long (".toList (by decide), Option.map_some,
    String.ofList_toList]

theorem readPlaced_chars (label : String) (character : Char) (position : Nat) :
    readPlaced (label.toList ++ " contains invalid character ".toList ++
        enclose '\x27' [character] ++ " at position ".toList ++
        Nat.toDigits 10 position) =
      some (label, character, position) := by
  simp only [readPlaced, lastDecimal_after " at position ".toList (by decide),
    dropSuffix?_append, Option.bind_some,
    lastQuoted_after (.inr rfl) " contains invalid character ".toList (by decide),
    Option.map_some, String.ofList_toList]

theorem readInvalidCharacter_chars
    {allowed : String} (hallowed : ¬ ", only ".toList <:+: allowed.toList)
    (label : String) (character : Char) (position : Nat) :
    readInvalidCharacter (invalidCharacter label character position allowed).messageChars =
      some (.invalidCharacter label character position allowed) := by
  have hsplit : ∀ before, splitLast ", only ".toList
      (before ++ ", only ".toList ++ allowed.toList) = some (before, allowed.toList) := by
    intro before
    rw [List.append_assoc]
    exact splitLast_append (by decide) hallowed before
  simp only [readInvalidCharacter, messageChars, dropSuffix?_append, hsplit,
    readPlaced_chars, Option.bind_some, Option.map_some, String.ofList_toList]

theorem readMalformedVersionFormat_chars (label value : String) :
    readMalformedVersionFormat (malformedVersionFormat label value).messageChars =
      some (.malformedVersionFormat label value) := by
  have hquotation := lastQuoted_after (.inl rfl)
    " must be in major.minor.patch format with numeric components, got ".toList
    (by decide) label.toList value.toList
  simp only [readMalformedVersionFormat, messageChars, hquotation, dropSuffix?_append,
    Option.bind_some, Option.map_some, String.ofList_toList]

theorem readMessage_message {violation : Violation} (hplain : violation.PlainAllowed) :
    readMessage violation.message = some violation := by
  rw [readMessage, toList_message, getLast?_messageChars, Option.bind_some,
    kindOfEnding?_ending, Option.bind_some]
  cases violation with
  | emptyValue label => exact readEmptyValue_chars label
  | tooLong label maximum actual => exact readTooLong_chars label maximum actual
  | invalidCharacter label character position allowed =>
      exact readInvalidCharacter_chars hplain label character position
  | malformedVersionFormat label value =>
      exact readMalformedVersionFormat_chars label value

/-- A message tells the violation, label and all. -/
theorem message_injective
    {violation other : Violation} (hplain : violation.PlainAllowed)
    (hother : other.PlainAllowed) (hmessage : violation.message = other.message) :
    violation = other := by
  have hread := readMessage_message hplain
  rw [hmessage, readMessage_message hother] at hread
  exact (Option.some.inj hread).symm

end GalleryNaming.Violation

namespace GalleryNaming.Rejection

/-! ## Joined messages -/

theorem toList_message (rejection : Rejection) :
    rejection.message.toList =
      "invalid ".toList ++ rejection.label.toList ++ ": ".toList ++
        "; ".toList.intercalate (rejection.violations.map Violation.messageChars) := by
  have htexts : (rejection.violations.map Violation.message).map String.toList =
      rejection.violations.map Violation.messageChars := by
    rw [List.map_map]
    apply List.map_congr_left
    intro violation _
    exact violation.toList_message
  unfold message
  simp only [String.toList_append, String.toList_intercalate, htexts]

end GalleryNaming.Rejection
